import LogVault.Link.Payload
import LogVault.Text.Decimal
import LogVault.Text.Form

/-!
# LogVault.Link.Query — a link as a query string

A link carries its payload and the signature as the pairs `key`, `snapshot`, `mode`, `expires` and
`signature` of a query. Reading takes the pairs in any order and skips pairs with other names, but
refuses a query in which one of the five names is repeated, one of those that every link has is
missing, the mode is no mode or the expiry is no number of 64 bits.
-/

namespace LogVault

/-- **What a link's query carries.** -/
structure LinkQuery where
  payload : Payload
  signature : String
  deriving Repr, DecidableEq

namespace LinkQuery

/-- The largest expiry. -/
def greatestExpiry : Nat := 0x7FFFFFFFFFFFFFFF

/-- The pairs of a query, in the order in which links have them. -/
def pairs (q : LinkQuery) : List (String × String) :=
  ("key", q.payload.key) ::
    ((q.payload.snapshot.map fun s => ("snapshot", s)).toList ++
      [("mode", q.payload.mode.word), ("expires", Decimal.intText q.payload.expires),
        ("signature", q.signature)])

/-- **The query string** of a link. -/
def write (q : LinkQuery) : List Char := Form.write q.pairs

/-! ## Reading -/

/-- **What a link's query names.** -/
inductive Field where
  | key
  | snapshot
  | mode
  | expires
  | signature
  deriving Repr, DecidableEq

namespace Field

/-- The name of a field. -/
def name : Field → String
  | .key => "key"
  | .snapshot => "snapshot"
  | .mode => "mode"
  | .expires => "expires"
  | .signature => "signature"

/-- The field of a name. -/
def ofName? (s : String) : Option Field :=
  if s = "key" then some .key
  else if s = "snapshot" then some .snapshot
  else if s = "mode" then some .mode
  else if s = "expires" then some .expires
  else if s = "signature" then some .signature
  else none

theorem ofName?_eq_some_iff {s : String} {field : Field} :
    ofName? s = some field ↔ s = field.name := by
  constructor
  · intro h
    unfold ofName? at h
    repeat' split at h
    all_goals cases h <;> assumption
  · rintro rfl
    cases field <;> rfl

end Field

/-- **The values met so far**, one for a field at most. -/
structure Slots where
  value? : Field → Option String

namespace Slots

/-- Nothing met. -/
def empty : Slots := ⟨fun _ => none⟩

/-- The slots with a value for a field. -/
def fill (s : Slots) (field : Field) (value : String) : Slots :=
  ⟨fun other => if other = field then some value else s.value? other⟩

/-- The slots with one more pair, unless its field has a value already. Pairs with other names do
not count. -/
def add? (s : Slots) (pair : String × String) : Option Slots :=
  match Field.ofName? pair.1 with
  | none => some s
  | some field => if (s.value? field).isSome then none else some (s.fill field pair.2)

/-- The slots with more pairs, up to the first that comes twice. -/
def addAll? (s : Slots) : List (String × String) → Option Slots
  | [] => some s
  | pair :: rest => (s.add? pair).bind fun t => t.addAll? rest

/-- What the values carry, once all have been met. -/
def link? (s : Slots) : Option LinkQuery := do
  let mode ← (s.value? .mode).bind Mode.ofWord?
  let expires ← (s.value? .expires).bind fun e =>
    (Decimal.readInt greatestExpiry e.toList).toOption
  let key ← s.value? .key
  let signature ← s.value? .signature
  return ⟨⟨key, s.value? .snapshot, mode, expires⟩, signature⟩

end Slots

/-- What the pairs of a query carry. -/
def ofPairs? (pairs : List (String × String)) : Option LinkQuery :=
  (Slots.empty.addAll? pairs).bind Slots.link?

/-- **What a query string carries**, if it is the query of a link. -/
def read? (query : String) : Option LinkQuery := ofPairs? (Form.read query)

end LinkQuery

end LogVault
