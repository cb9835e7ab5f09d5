import LogVault.Proofs.Json.Text
import LogVault.Proofs.Text.Decimal
import Mathlib.Data.Option.Basic

/-!
# LogVault.Proofs.Json.Document — documents with one member a line are read back

The reader skips what the writer put between members, and every value ends by itself or at the comma
or the line end behind it. So a text is read back in front of any such rest (`reads_text`), and so is
a whole number that fits 64 bits (`reads_whole`); an object is if its members are (`reads_object`),
and a whole document is, with a line end behind it (`parse_pretty_append`).
-/

namespace LogVault.Json

/-! ## Blanks -/

/-- A character that the reader skips between values. -/
def isSkipped (c : Char) : Bool := c = ' ' || c = '\n' || c = '\t' || c = '\r'

theorem skipBlanks_cons {c : Char} (h : isSkipped c = false) (l : List Char) :
    skipBlanks (c :: l) = c :: l :=
  List.dropWhile_cons_of_neg (Bool.eq_false_iff.mp h)

theorem skipBlanks_append {blanks : List Char} (h : ∀ c ∈ blanks, isSkipped c = true)
    (l : List Char) : skipBlanks (blanks ++ l) = skipBlanks l :=
  List.dropWhile_append_of_pos h

theorem isSkipped_of_mem_line {depth : Nat} {c : Char} (h : c ∈ line depth) :
    isSkipped c = true := by
  rcases List.mem_cons.mp h with rfl | h
  · rfl
  · rw [List.eq_of_mem_replicate h]
    rfl

theorem skipBlanks_line_append (depth : Nat) (l : List Char) :
    skipBlanks (line depth ++ l) = skipBlanks l :=
  skipBlanks_append (fun _ => isSkipped_of_mem_line) l

theorem skipBlanks_writeText_append (s : String) (l : List Char) :
    skipBlanks (writeText s ++ l) = writeText s ++ l := skipBlanks_cons rfl _

/-- The reader sees no blanks in front of a value. -/
theorem readValue_congr {l m : List Char} (h : skipBlanks l = skipBlanks m) (fuel : Nat) :
    readValue fuel l = readValue fuel m := by
  cases fuel with
  | zero => rw [readValue, readValue]
  | succ fuel => rw [readValue, readValue, h]

/-- The reader sees no blanks in front of a member. -/
theorem readMembers_congr {l m : List Char} (h : skipBlanks l = skipBlanks m) (fuel : Nat) :
    readMembers fuel l = readMembers fuel m := by
  cases fuel with
  | zero => rw [readMembers, readMembers]
  | succ fuel => rw [readMembers, readMembers, h]

/-! ## Values -/

/-- What may stand behind a value: nothing, a comma or a line end. -/
def Stops (rest : List Char) : Prop := rest = [] ∨ ∃ l, rest = ',' :: l ∨ rest = '\n' :: l

theorem stops_line_append (depth : Nat) (l : List Char) : Stops (line depth ++ l) :=
  .inr ⟨_, .inr rfl⟩

/-- **A document is read back**, at every depth and in front of everything that may stand behind
it. -/
def Value.Reads (v : Value) : Prop :=
  ∀ depth fuel rest, (v.prettyAt depth).length < fuel → Stops rest →
    readValue fuel (v.prettyAt depth ++ rest) = some (v, rest)

theorem reads_text (s : String) : (Value.text s).Reads := by
  intro depth fuel rest hfuel _
  have hpretty : (Value.text s).prettyAt depth = writeText s := by
    simp only [Value.prettyAt, Value.leaf]
  obtain ⟨fuel, rfl⟩ := Nat.exists_eq_add_one_of_ne_zero (Nat.ne_zero_of_lt hfuel)
  have hskip : skipBlanks (writeText s ++ rest) =
      '"' :: (s.toList.flatMap escapeChar ++ '"' :: rest) := by
    rw [skipBlanks_writeText_append, writeText, List.cons_append, List.append_assoc]
    rfl
  rw [hpretty, readValue, hskip]
  simp only [readText_escape_append, Option.map_some]

theorem isWhole_ofNat (n : Nat) : isWhole (Decimal.ofNat n) = true := by
  unfold isWhole
  split
  · next h =>
    obtain ⟨_, _, hcons, -⟩ := Decimal.exists_cons_ofNat n
    rw [hcons] at h
    cases h
  · next h =>
    rw [Decimal.eq_zero_of_ofNat_eq_zero_cons h] at h
    cases h
  · rfl

/-- Digits end where another part of the document begins. -/
theorem cut_digits_append {l rest : List Char} (hl : ∀ c ∈ l, c.isDigit = true)
    (hstops : Stops rest) :
    (l ++ rest).takeWhile Char.isDigit = l ∧ (l ++ rest).dropWhile Char.isDigit = rest := by
  rcases hstops with rfl | ⟨after, rfl | rfl⟩
  · rw [List.append_nil, List.takeWhile_eq_self_iff.mpr hl, List.dropWhile_eq_nil_iff.mpr hl]
    exact ⟨rfl, rfl⟩
  · exact ⟨Text.takeWhile_append_cons_of_neg hl (by decide),
      Text.dropWhile_append_cons_of_neg hl (by decide)⟩
  · exact ⟨Text.takeWhile_append_cons_of_neg hl (by decide),
      Text.dropWhile_append_cons_of_neg hl (by decide)⟩

/-- What may stand behind a number belongs to no part of one. -/
theorem readNumber_ofNat_append {n : Nat} (h : n ≤ mostDigits) {rest : List Char}
    (hstops : Stops rest) : readNumber (Decimal.ofNat n ++ rest) = some (.whole n, rest) := by
  obtain ⟨htake, hdrop⟩ := cut_digits_append
    (fun _ => Decimal.isDigit_of_mem_ofNat : ∀ c ∈ Decimal.ofNat n, _) hstops
  have hguard : (guard (isWhole (Decimal.ofNat n) = true) : Option Unit) = some () :=
    if_pos (isWhole_ofNat n)
  have hfraction : readFraction rest = some (none, rest) := by
    rcases hstops with rfl | ⟨l, rfl | rfl⟩ <;> rfl
  have hexponent : readExponent rest = some (none, rest) := by
    rcases hstops with rfl | ⟨l, rfl | rfl⟩ <;> rfl
  have hnumber : numberOf false (Decimal.ofNat n) none none = some (.whole n) := by
    simp only [numberOf, Decimal.value_ofNat, h, if_true, Bool.false_eq_true, if_false]
  have hminus : ∀ r, Decimal.ofNat n ++ rest ≠ '-' :: r := by
    obtain ⟨d, digits, hcons, hdigit⟩ := Decimal.exists_cons_ofNat n
    intro r heq
    rw [hcons, List.cons_append, List.cons.injEq] at heq
    rw [heq.1] at hdigit
    cases hdigit
  unfold readNumber
  split
  next negative unsigned hsign =>
  split at hsign
  · next r heq => exact absurd heq (hminus r)
  · cases hsign
    dsimp only
    rw [htake, hdrop, hguard]
    simp only [hfraction, Option.bind_eq_bind, Option.bind_some, hexponent, hnumber,
      Option.pure_def]

/-- **A whole number is read back**, if it fits 64 bits. -/
theorem reads_whole {n : Nat} (h : n ≤ mostDigits) : (Value.whole n).Reads := by
  intro depth fuel rest hfuel hstops
  have hpretty : (Value.whole n).prettyAt depth = Decimal.ofNat n := by
    simp only [Value.prettyAt, Value.leaf]
    rfl
  obtain ⟨fuel, rfl⟩ := Nat.exists_eq_add_one_of_ne_zero (Nat.ne_zero_of_lt hfuel)
  obtain ⟨d, digits, hcons, hdigit⟩ := Decimal.exists_cons_ofNat n
  have hnumber := readNumber_ofNat_append h hstops
  rw [hcons, List.cons_append] at hnumber
  have hskipped : isSkipped d = false := by
    rw [isSkipped]
    simp only [Bool.or_eq_false_iff, decide_eq_false_iff_not]
    refine ⟨⟨⟨?_, ?_⟩, ?_⟩, ?_⟩ <;> rintro rfl <;> cases hdigit
  rw [hpretty, hcons, List.cons_append, readValue, skipBlanks_cons hskipped]
  -- a digit begins no other kind of value
  split
  all_goals first
    | exact hnumber
    | (next heq => rw [(List.cons.inj heq).1] at hdigit; cases hdigit)

/-! ## Objects -/

/-- The members from the first one on, and the end of the object. -/
def writeMembers (depth : Nat) (name : String) (v : Value) (ms : List (String × Value)) :
    List Char :=
  writeText name ++ ':' :: ' ' :: (v.prettyAt (depth + 1) ++
    (prettyMembers (depth + 1) ms ++ (line depth ++ ['\x7d'])))

theorem prettyAt_object_cons (depth : Nat) (name : String) (v : Value)
    (ms : List (String × Value)) :
    (Value.object ((name, v) :: ms)).prettyAt depth =
      '\x7b' :: (line (depth + 1) ++ writeMembers depth name v ms) := by
  simp only [Value.prettyAt, writeMembers, List.append_assoc, List.cons_append]

theorem writeMembers_append_cons (depth : Nat) (name : String) (v : Value) (name' : String)
    (v' : Value) (ms : List (String × Value)) (rest : List Char) :
    writeMembers depth name v ((name', v') :: ms) ++ rest =
      writeText name ++ ':' :: ' ' :: (v.prettyAt (depth + 1) ++
        ',' :: (line (depth + 1) ++ (writeMembers depth name' v' ms ++ rest))) := by
  simp only [writeMembers, prettyMembers, List.append_assoc, List.cons_append]

/-- **One member** is read, and what stands behind its value decides how to go on. -/
theorem readMembers_member (fuel depth : Nat) (name : String) {v : Value} (hv : v.Reads)
    {rest : List Char} (hfuel : (v.prettyAt (depth + 1)).length < fuel) (hrest : Stops rest) :
    readMembers (fuel + 1) (writeText name ++ ':' :: ' ' :: (v.prettyAt (depth + 1) ++ rest)) =
      match skipBlanks rest with
      | ',' :: rest => (readMembers fuel rest).map fun (ms, r) => ((name, v) :: ms, r)
      | '\x7d' :: rest => some ([(name, v)], rest)
      | _ => none := by
  have hname : skipBlanks (writeText name ++ ':' :: ' ' :: (v.prettyAt (depth + 1) ++ rest)) =
      '"' :: (name.toList.flatMap escapeChar ++
        '"' :: ':' :: ' ' :: (v.prettyAt (depth + 1) ++ rest)) := by
    rw [skipBlanks_writeText_append, writeText, List.cons_append, List.append_assoc]
    rfl
  have hcolon : ∀ l, skipBlanks (':' :: l) = ':' :: l := skipBlanks_cons rfl
  have hspace : ∀ c ∈ [' '], isSkipped c = true := fun c hc => by
    rw [List.mem_singleton.mp hc]
    rfl
  have hblank : ∀ l, skipBlanks (' ' :: l) = skipBlanks l := skipBlanks_append hspace
  have hvalue : readValue fuel (' ' :: (v.prettyAt (depth + 1) ++ rest)) = some (v, rest) :=
    (readValue_congr (hblank _) fuel).trans (hv (depth + 1) fuel rest hfuel hrest)
  have hread := readMembers.eq_2 (writeText name ++ ':' :: ' ' :: (v.prettyAt (depth + 1) ++ rest))
    fuel
  simp only [hname, readText_escape_append, Option.bind_eq_bind, Option.bind_some, hcolon,
    hvalue] at hread
  exact hread

theorem readMembers_writeMembers (depth : Nat) (ms : List (String × Value)) :
    ∀ (name : String) (v : Value) (fuel : Nat) (rest : List Char), v.Reads →
      (∀ m ∈ ms, m.2.Reads) → (writeMembers depth name v ms).length ≤ fuel →
      readMembers fuel (writeMembers depth name v ms ++ rest) = some ((name, v) :: ms, rest) := by
  induction ms with
  | nil =>
    intro name v fuel rest hv _ hfuel
    have hlength : (v.prettyAt (depth + 1)).length + 1 < fuel := by
      simp only [writeMembers, writeText, line, List.length_append, List.length_cons] at hfuel
      omega
    obtain ⟨fuel, rfl⟩ := Nat.exists_eq_add_one_of_ne_zero (Nat.ne_zero_of_lt hlength)
    have hmembers : writeMembers depth name v [] ++ rest =
        writeText name ++ ':' :: ' ' :: (v.prettyAt (depth + 1) ++ (line depth ++ '\x7d' :: rest)) := by
      simp only [writeMembers, prettyMembers, List.append_assoc, List.cons_append, List.nil_append]
    have hend : skipBlanks (line depth ++ '\x7d' :: rest) = '\x7d' :: rest := by
      rw [skipBlanks_line_append]
      exact skipBlanks_cons rfl _
    rw [hmembers, readMembers_member fuel depth name hv (by omega) (stops_line_append depth _), hend]
    rfl
  | cons m ms ih =>
    intro name v fuel rest hv hms hfuel
    obtain ⟨name', v'⟩ := m
    have hlength : (v.prettyAt (depth + 1)).length + (writeMembers depth name' v' ms).length + 1 <
        fuel := by
      have hsplit := congrArg List.length (writeMembers_append_cons depth name v name' v' ms [])
      simp only [writeText, List.append_nil, List.length_append, List.length_cons] at hsplit
      omega
    obtain ⟨fuel, rfl⟩ := Nat.exists_eq_add_one_of_ne_zero (Nat.ne_zero_of_lt hlength)
    have hcomma : ∀ l, skipBlanks (',' :: l) = ',' :: l := skipBlanks_cons rfl
    have hrest : readMembers fuel (line (depth + 1) ++ (writeMembers depth name' v' ms ++ rest)) =
        some ((name', v') :: ms, rest) := by
      rw [readMembers_congr (skipBlanks_line_append (depth + 1) _)]
      exact ih name' v' fuel rest (hms _ List.mem_cons_self)
        (fun m hm => hms m (List.mem_cons_of_mem _ hm)) (by omega)
    rw [writeMembers_append_cons,
      readMembers_member fuel depth name hv (by omega) (.inr ⟨_, .inl rfl⟩), hcomma]
    simp only [hrest, Option.map_some]

/-- **An object is read back** if its members are. -/
theorem reads_object {ms : List (String × Value)} (h : ∀ m ∈ ms, m.2.Reads) :
    (Value.object ms).Reads := by
  intro depth fuel rest hfuel _
  obtain ⟨fuel, rfl⟩ := Nat.exists_eq_add_one_of_ne_zero (Nat.ne_zero_of_lt hfuel)
  have hopen : ∀ l, skipBlanks ('\x7b' :: l) = '\x7b' :: l := skipBlanks_cons rfl
  cases ms with
  | nil =>
    have hpretty : (Value.object []).prettyAt depth ++ rest = '\x7b' :: '\x7d' :: rest := by
      simp only [Value.prettyAt, Value.leaf, List.cons_append, List.nil_append]
    have hclose : ∀ l, skipBlanks ('\x7d' :: l) = '\x7d' :: l := skipBlanks_cons rfl
    rw [hpretty, readValue, hopen]
    simp only [hclose]
  | cons m ms =>
    obtain ⟨name, v⟩ := m
    rw [prettyAt_object_cons, List.length_cons, List.length_append] at hfuel
    have hmembers := readMembers_writeMembers depth ms name v fuel rest (h _ List.mem_cons_self)
      (fun m hm => h m (List.mem_cons_of_mem _ hm)) (by omega)
    rw [prettyAt_object_cons, List.cons_append, List.append_assoc, readValue, hopen]
    -- a member begins with a quote, so the object is not taken for an empty one
    obtain ⟨tail, htail⟩ : ∃ tail, writeMembers depth name v ms ++ rest = '"' :: tail := ⟨_, rfl⟩
    rw [htail] at hmembers ⊢
    have hfirst : skipBlanks (line (depth + 1) ++ '"' :: tail) = '"' :: tail := by
      rw [skipBlanks_line_append]
      exact skipBlanks_cons rfl tail
    simp only [hfirst]
    show Option.map _ (readMembers fuel ('"' :: tail)) = _
    rw [hmembers]
    rfl

/-! ## Whole documents -/

/-- **A document with a line end behind it** is read back. -/
theorem parse_pretty_append {v : Value} (h : v.Reads) : parse (v.pretty ++ ['\n']) = some v := by
  have hread : readValue ((v.pretty ++ ['\n']).length + 1) (v.pretty ++ ['\n']) =
      some (v, ['\n']) := by
    refine h 0 _ ['\n'] ?_ (.inr ⟨[], .inr rfl⟩)
    rw [List.length_append]
    exact Nat.lt_add_right 1 (Nat.lt_succ_self _)
  rw [parse, hread]
  rfl

end LogVault.Json
