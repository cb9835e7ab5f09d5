import LogVault.Proofs.Reading
import LogVault.Proofs.Text.Blank
import LogVault.Proofs.Text.Decimal
import LogVault.Settings.Basic

/-!
# LogVault.Proofs.Settings.Variables — which variables make settings

Four variables are numbers, each with a range and with a value for when it is not set (`Figure`). What
such a variable means is said by `Means` from the letters of its text: blanks, perhaps a plus sign,
digits of ASCII, blanks. Variables make settings just if all four mean a number, these are the numbers
of the settings, and otherwise the flaw is that of the first one that means none, whatever all the
other variables say (`ofVariables_accepts_exactly`).

Reading is a search for the first flaw (`ofVariables_eq_error_iff`), so what is said of one variable
is said once, for all four.
-/

namespace LogVault.Settings

/-! ## The numbers among the variables -/

/-- **A number among the variables.** -/
inductive Figure where
  | portNumber
  | maxUploadBytes
  | defaultTtl
  | maxTtl
  deriving Repr, DecidableEq

namespace Figure

/-- The variable that holds it. -/
def name : Figure → String
  | portNumber => "PORT"
  | maxUploadBytes => "MAX_UPLOAD_BYTES"
  | defaultTtl => "LINK_TTL_SECS"
  | maxTtl => "LINK_MAX_TTL_SECS"

/-- The largest it may be. -/
def max : Figure → Nat
  | portNumber => max16
  | _ => max64

/-- What it is when its variable is not set. -/
def default : Figure → Nat
  | portNumber => 3000
  | maxUploadBytes => 64 * 1024 * 1024
  | defaultTtl => 3600
  | maxTtl => 7 * 24 * 3600

/-- The number in settings. -/
def of (s : Settings) : Figure → Nat
  | portNumber => s.server.portNumber
  | maxUploadBytes => s.server.maxUploadBytes
  | defaultTtl => s.links.defaultTtlSeconds
  | maxTtl => s.links.maxTtlSeconds

/-- All of them, in the order in which flaws are looked for. -/
def all : List Figure := [portNumber, maxUploadBytes, defaultTtl, maxTtl]

end Figure

/-! ## What they mean -/

/-- **A text that spells a number**: blanks, perhaps a plus sign, one or more digits, blanks. -/
def SpellsNumber (text : String) (n : Nat) : Prop :=
  ∃ before sign digits after : List Char, text.toList = before ++ (sign ++ digits ++ after) ∧
    (∀ c ∈ before, Text.isBlank c = true) ∧ (∀ c ∈ after, Text.isBlank c = true) ∧
    (sign = [] ∨ sign = ['+']) ∧ digits ≠ [] ∧ (∀ c ∈ digits, c.isDigit = true) ∧
    Decimal.value digits = n

/-- **What a number among the variables means**: its usual value where it is not set, and the number
that its text spells if that is in range. -/
inductive Means (vars : Variables) (x : Figure) : Nat → Prop
  | unset : vars x.name = none → Means vars x x.default
  | set {text : String} {n : Nat} : vars x.name = some text → SpellsNumber text n → n ≤ x.max →
      Means vars x n

/-- Reading the trimmed text takes what the whole text spells. -/
theorem readNat_trimmed_eq_ok_iff {max n : Nat} {text : String} :
    Decimal.readNat max (Text.trimmed text.toList) = .ok n ↔ SpellsNumber text n ∧ n ≤ max := by
  have hword : ∀ {sign digits : List Char}, (sign = [] ∨ sign = ['+']) →
      (∀ c ∈ digits, c.isDigit = true) → ∀ c ∈ sign ++ digits, Text.isBlank c = false := by
    intro sign digits hsign hdigits c hc
    rcases List.mem_append.mp hc with hc | hc
    · rcases hsign with rfl | rfl
      · cases hc
      · rw [List.mem_singleton.mp hc]
        decide
    · exact Text.isBlank_eq_false_of_isDigit (hdigits c hc)
  rw [Decimal.readNat_eq_ok_iff]
  refine and_congr_left fun _ => ?_
  constructor
  · rintro ⟨digits, hform, hdigits, hvalue⟩
    obtain ⟨hne, hdigits⟩ := Decimal.isDigits_iff.mp hdigits
    obtain ⟨sign, hsign, hform⟩ : ∃ sign, (sign = [] ∨ sign = ['+']) ∧
        Text.trimmed text.toList = sign ++ digits := by
      rcases hform with hform | hform
      · exact ⟨[], .inl rfl, hform⟩
      · exact ⟨['+'], .inr rfl, hform⟩
    obtain ⟨before, after, htext, hbefore, hafter⟩ := (Text.trimmed_eq_iff
      (List.append_ne_nil_of_right_ne_nil sign hne) (hword hsign hdigits)).mp hform
    exact ⟨before, sign, digits, after, htext, hbefore, hafter, hsign, hne, hdigits, hvalue⟩
  · rintro ⟨before, sign, digits, after, htext, hbefore, hafter, hsign, hne, hdigits, hvalue⟩
    have htrimmed := (Text.trimmed_eq_iff (List.append_ne_nil_of_right_ne_nil sign hne)
      (hword hsign hdigits)).mpr ⟨before, after, htext, hbefore, hafter⟩
    refine ⟨digits, ?_, Decimal.isDigits_iff.mpr ⟨hne, hdigits⟩, hvalue⟩
    rcases hsign with rfl | rfl
    · exact .inl htrimmed
    · exact .inr htrimmed

section Figures

variable {vars : Variables} {x : Figure}

/-- The reading of one number. -/
def figure (vars : Variables) (x : Figure) : Except Flaw Nat := number vars x.name x.max x.default

/-- **One number is read as what it means.** -/
theorem figure_eq_ok_iff {n : Nat} : figure vars x = .ok n ↔ Means vars x n := by
  unfold figure number
  cases htext : vars x.name with
  | none =>
    constructor
    · intro h
      cases h
      exact .unset htext
    · rintro (_ | ⟨hset, -, -⟩)
      · rfl
      · rw [htext] at hset
        cases hset
  | some text =>
    dsimp only
    have hread : Decimal.readNat x.max (Text.trimmed text.toList) = .ok n ↔ Means vars x n := by
      rw [readNat_trimmed_eq_ok_iff]
      constructor
      · rintro ⟨hspells, hmax⟩
        exact .set htext hspells hmax
      · rintro (hunset | ⟨hset, hspells, hmax⟩)
        · rw [htext] at hunset
          cases hunset
        · rw [htext] at hset
          cases hset
          exact ⟨hspells, hmax⟩
    rw [← hread]
    cases Decimal.readNat x.max (Text.trimmed text.toList) <;> simp

/-! ## Flaws -/

/-- The flaw of one number, if it means none. -/
def flaw? (vars : Variables) (x : Figure) : Option Flaw :=
  match figure vars x with
  | .ok _ => none
  | .error flaw => some flaw

theorem flaw?_eq_none_iff : flaw? vars x = none ↔ ∃ n, Means vars x n := by
  simp only [← figure_eq_ok_iff, flaw?]
  cases figure vars x <;> simp

/-- **A flaw is that of a number** whose variable is set and means none, and its message says so. -/
structure Offends (vars : Variables) (x : Figure) (flaw : Flaw) : Prop where
  name : flaw.name = x.name
  text : vars x.name = some flaw.text
  meansNone : ¬ ∃ n, Means vars x n
  message : ∃ cause : Decimal.Flaw, flaw.message =
    x.name ++ " has an invalid value: " ++ Text.quoted flaw.text ++ ": " ++ cause.message

theorem offends_of_flaw? {flaw : Flaw} (h : flaw? vars x = some flaw) : Offends vars x flaw := by
  have hnone : ¬ ∃ n, Means vars x n := fun hmeans => by
    rw [flaw?_eq_none_iff.mpr hmeans] at h
    cases h
  unfold flaw? figure number at h
  cases htext : vars x.name with
  | none => exact absurd ⟨_, .unset htext⟩ hnone
  | some text =>
    rw [htext] at h
    dsimp only at h
    cases hread : Decimal.readNat x.max (Text.trimmed text.toList) with
    | ok n =>
      rw [hread] at h
      cases h
    | error cause =>
      rw [hread] at h
      cases h
      exact ⟨rfl, htext, hnone, cause, rfl⟩

/-- The flaw of a number depends on its own variable only. -/
theorem flaw?_congr {others : Variables} (h : others x.name = vars x.name) :
    flaw? others x = flaw? vars x := by
  rw [flaw?, figure, number, h, flaw?, figure, number]

/-- **Reading looks for the first flaw.** -/
theorem ofVariables_eq_error_iff {flaw : Flaw} :
    ofVariables vars = .error flaw ↔ Figure.all.findSome? (flaw? vars) = some flaw := by
  obtain ⟨make, hmake⟩ : ∃ make : Nat → Nat → Nat → Nat → Settings, ofVariables vars = do
      let portNumber ← figure vars .portNumber
      let maxUploadBytes ← figure vars .maxUploadBytes
      let defaultTtl ← figure vars .defaultTtl
      let maxTtl ← figure vars .maxTtl
      return make portNumber maxUploadBytes defaultTtl maxTtl := ⟨_, rfl⟩
  rw [hmake]
  simp only [Figure.all, List.findSome?_cons, flaw?, List.findSome?_nil]
  -- the first that fails ends the reading as it ends the search
  cases figure vars .portNumber with
  | error _ => simp [bind, Except.bind]
  | ok _ =>
    cases figure vars .maxUploadBytes with
    | error _ => simp [bind, Except.bind]
    | ok _ =>
      cases figure vars .defaultTtl with
      | error _ => simp [bind, Except.bind]
      | ok _ => cases figure vars .maxTtl <;> simp [bind, Except.bind, pure, Except.pure]

end Figures

/-! ## Settings -/

section Made

variable {vars : Variables} {s : Settings}

/-- **Settings that variables make** have the numbers that these mean, the secret unless it is empty,
and the public URL, or else that of the port, without the slashes at its end. -/
theorem of_ofVariables (h : ofVariables vars = .ok s) :
    (∀ x, Means vars x (Figure.of s x)) ∧ s.links.secret = (vars "LINK_SECRET").filter (· != "") ∧
      s.links.publicUrl =
        withoutSlashes ((vars "PUBLIC_URL").getD (localUrl s.server.portNumber)) := by
  unfold ofVariables at h
  obtain ⟨_, hportNumber, h⟩ := Except.exists_of_bind_eq_ok h
  obtain ⟨_, hmaxUploadBytes, h⟩ := Except.exists_of_bind_eq_ok h
  obtain ⟨_, hdefaultTtl, h⟩ := Except.exists_of_bind_eq_ok h
  obtain ⟨_, hmaxTtl, h⟩ := Except.exists_of_bind_eq_ok h
  cases h
  refine ⟨fun x => figure_eq_ok_iff.mp ?_, rfl, rfl⟩
  cases x with
  | portNumber => exact hportNumber
  | maxUploadBytes => exact hmaxUploadBytes
  | defaultTtl => exact hdefaultTtl
  | maxTtl => exact hmaxTtl

/-- **What holds of settings that variables make**, beside what these say word by word. -/
structure Sound (vars : Variables) (s : Settings) : Prop where
  figures : ∀ x, Means vars x (Figure.of s x)
  secret : s.links.secret ≠ some ""
  unslashed : s.links.publicUrl.toList.getLast? ≠ some '/'
  localUrl : vars "PUBLIC_URL" = none →
    s.links.publicUrl = "http://localhost:" ++ toString s.server.portNumber

theorem getLast?_withoutSlashes (text : String) :
    (withoutSlashes text).toList.getLast? ≠ some '/' := by
  rw [withoutSlashes, String.toList_ofList]
  exact fun h => absurd (Text.getLast?_dropTrailing h) (by decide)

/-- A local URL ends in a digit. -/
theorem withoutSlashes_localUrl (portNumber : Nat) :
    withoutSlashes (localUrl portNumber) = localUrl portNumber := by
  have hurl : localUrl portNumber = "http://localhost:" ++ Decimal.natText portNumber := rfl
  have hdigits : (Decimal.natText portNumber).toList = Decimal.ofNat portNumber :=
    String.toList_ofList
  obtain ⟨d, rest, hcons, -⟩ := Decimal.exists_cons_ofNat portNumber
  have hlast : ∀ c ∈ (localUrl portNumber).toList.getLast?, (c == '/') = false := by
    intro c hc
    rw [hurl, String.toList_append, hdigits,
      List.getLast?_append_of_ne_nil _ (hcons ▸ List.cons_ne_nil d rest)] at hc
    have hdigit := Decimal.isDigit_of_mem_ofNat (List.mem_of_getLast? hc)
    rw [beq_eq_false_iff_ne]
    rintro rfl
    cases hdigit
  rw [withoutSlashes, Text.dropTrailing_eq_self hlast, String.ofList_toList]

theorem sound_of_ofVariables (h : ofVariables vars = .ok s) : Sound vars s := by
  obtain ⟨hfigures, hsecret, hurl⟩ := of_ofVariables h
  refine ⟨hfigures, ?_, ?_, fun hunset => ?_⟩
  · rw [hsecret]
    intro hempty
    exact absurd (Option.filter_eq_some_iff.mp hempty).2 (by decide)
  · rw [hurl]
    exact getLast?_withoutSlashes _
  · rw [hurl, hunset, Option.getD_none, withoutSlashes_localUrl]
    rfl

end Made

/-- **Variables make settings** just if each of the four numbers is not set or spells one in range.
Then the settings have these numbers, a secret that is not empty if they have one, and a public URL
that does not end in a slash, which is that of the port where none is set. Otherwise the flaw is that
of the first number that has one: it would be the same with all other variables changed, as long as
no number before it has a flaw. -/
theorem ofVariables_accepts_exactly (vars : Variables) :
    ((∃ s, ofVariables vars = .ok s) ↔ ∀ x, ∃ n, Means vars x n) ∧
    (∀ s, ofVariables vars = .ok s → Sound vars s) ∧
    ∀ flaw, ofVariables vars = .error flaw → ∃ before x after,
      Figure.all = before ++ x :: after ∧ (∀ y ∈ before, ∃ n, Means vars y n) ∧
      Offends vars x flaw ∧
      ∀ others, others x.name = vars x.name → (∀ y ∈ before, ∃ n, Means others y n) →
        ofVariables others = .error flaw := by
  have herror : ∀ {others : Variables} {flaw : Flaw}, ofVariables others = .error flaw ↔
      ∃ before x after, Figure.all = before ++ x :: after ∧ flaw? others x = some flaw ∧
        ∀ y ∈ before, ∃ n, Means others y n := by
    intro others flaw
    rw [ofVariables_eq_error_iff, List.findSome?_eq_some_iff]
    simp only [flaw?_eq_none_iff]
  refine ⟨⟨?_, fun h => ?_⟩, fun s => sound_of_ofVariables, fun flaw h => ?_⟩
  · rintro ⟨s, hs⟩ x
    exact ⟨_, (of_ofVariables hs).1 x⟩
  · cases hread : ofVariables vars with
    | ok s => exact ⟨s, rfl⟩
    | error flaw =>
      obtain ⟨_, x, _, -, hflaw, -⟩ := herror.mp hread
      exact absurd (h x) (offends_of_flaw? hflaw).meansNone
  · obtain ⟨before, x, after, hall, hflaw, hbefore⟩ := herror.mp h
    refine ⟨before, x, after, hall, hbefore, offends_of_flaw? hflaw, fun others hsame hfront => ?_⟩
    exact herror.mpr ⟨before, x, after, hall, (flaw?_congr hsame).trans hflaw, hfront⟩

/-- The variables of a list of names with their texts. -/
def listed (pairs : List (String × String)) : Variables := fun name => pairs.lookup name

/-- Settings at both limits, with a sign, zeros, blanks that are not of ASCII and a secret of no
characters; and a flaw that is still the same when the variables before it are set and the one after
it is not. -/
theorem ofVariables_accepts_exactly_at_the_limits :
    ∃ (vars faulty others : Variables) (s : Settings) (flaw : Flaw),
      vars = listed [("PORT", "\u00a0+0065535\t"), ("LINK_MAX_TTL_SECS", "18446744073709551615"),
        ("LINK_SECRET", "")] ∧
      faulty = listed [("LINK_TTL_SECS", "1 0"), ("LINK_MAX_TTL_SECS", "soon")] ∧
      others = listed [("PORT", "1"), ("MAX_UPLOAD_BYTES", "2"), ("LINK_TTL_SECS", "1 0")] ∧
      ofVariables vars = .ok s ∧ s.server.portNumber = 65535 ∧ s.links.secret ≠ some "" ∧
      s.links.publicUrl = "http://localhost:65535" ∧
      ofVariables faulty = .error flaw ∧ flaw.name = "LINK_TTL_SECS" ∧
      ofVariables others = .error flaw := by
  let vars : Variables := listed [("PORT", "\u00a0+0065535\t"),
    ("LINK_MAX_TTL_SECS", "18446744073709551615"), ("LINK_SECRET", "")]
  let faulty : Variables := listed [("LINK_TTL_SECS", "1 0"), ("LINK_MAX_TTL_SECS", "soon")]
  let others : Variables :=
    listed [("PORT", "1"), ("MAX_UPLOAD_BYTES", "2"), ("LINK_TTL_SECS", "1 0")]
  obtain ⟨s, hs, hport⟩ : ∃ s, ofVariables vars = .ok s ∧ s.server.portNumber = 65535 :=
    ⟨_, rfl, rfl⟩
  obtain ⟨flaw, hflaw, hname⟩ : ∃ flaw, ofVariables faulty = .error flaw ∧
      flaw.name = "LINK_TTL_SECS" := ⟨_, rfl, rfl⟩
  have hsound := (ofVariables_accepts_exactly vars).2.1 s hs
  have hurl := hsound.localUrl rfl
  rw [hport] at hurl
  obtain ⟨before, x, after, -, hbefore, hoffends, hkeeps⟩ :=
    (ofVariables_accepts_exactly faulty).2.2 flaw hflaw
  obtain rfl : x = .defaultTtl := by
    have hsame := hoffends.name
    rw [hname] at hsame
    cases x <;> first | rfl | exact absurd hsame (by decide)
  refine ⟨vars, faulty, others, s, flaw, rfl, rfl, rfl, hs, hport, hsound.secret, hurl, hflaw,
    hname, hkeeps others rfl fun y hy => ?_⟩
  cases y with
  | portNumber => exact ⟨1, figure_eq_ok_iff.mp rfl⟩
  | maxUploadBytes => exact ⟨2, figure_eq_ok_iff.mp rfl⟩
  | defaultTtl => exact absurd (hbefore _ hy) hoffends.meansNone
  | maxTtl => exact ⟨_, figure_eq_ok_iff.mp rfl⟩

end LogVault.Settings
