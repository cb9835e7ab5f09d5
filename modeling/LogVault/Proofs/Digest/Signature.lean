import LogVault.Digest.Hmac
import LogVault.Proofs.Text.Hex

/-!
# LogVault.Proofs.Digest.Signature — which texts are accepted as a signature

A signature has 64 hexadecimal digits (`isSignature_sign`). What is accepted in its place is the same
digits, each in lower or in upper case (`verify_eq_true_iff`), and every other text strays from it in
its length, in a character that is no digit, or in a digit of another value
(`verify_accepts_up_to_case`).

The secret and the message play no part in this: only the length of a code does, so it holds for
secrets of every length.
-/

namespace LogVault.Hmac

/-- A text that can be a signature: 64 hexadecimal digits. -/
def IsSignature (s : String) : Prop := s.toList.length = 64 ∧ ∀ c ∈ s.toList, c ∈ Hex.digits

theorem toList_sign (secret message : Bytes) :
    (sign secret message).toList = Hex.encode (code secret message) := String.toList_ofList

theorem isSignature_sign (secret message : Bytes) : IsSignature (sign secret message) := by
  refine ⟨?_, fun c hc => ?_⟩
  · rw [toList_sign, Hex.length_encode, length_code]
  · rw [toList_sign] at hc
    exact Hex.mem_digits_of_mem_encode hc

/-! ## What is accepted -/

/-- **A signature is accepted** if it is the digits of the code, in lower or in upper case. -/
theorem verify_eq_true_iff {secret message : Bytes} {signature : String} :
    verify secret message signature = true ↔
      signature.toList.map Char.toLower = Hex.encode (code secret message) := by
  rw [verify, ← Hex.decode_eq_some_iff]
  cases Hex.decode signature.toList with
  | none => exact iff_of_false Bool.false_ne_true (Option.some_ne_none _).symm
  | some octets => rw [Option.some.injEq, beq_iff_eq]

/-- **A signature is accepted** for the octets that it was made for. -/
theorem verify_sign (secret message : Bytes) :
    verify secret message (sign secret message) = true := by
  rw [verify, sign, Hex.text, String.toList_ofList, Hex.decode_encode]
  exact beq_self_eq_true _

/-- What is accepted has the values of the signature's digits. -/
theorem verify_eq_true_iff_values {secret message : Bytes} {s : String} :
    verify secret message s = true ↔
      s.toList.map Hex.value? = (sign secret message).toList.map Hex.value? := by
  rw [verify_eq_true_iff, ← toList_sign]
  exact Hex.map_toLower_eq_iff (isSignature_sign secret message).2

/-! ## What is refused -/

/-- **A text strays from a signature**: it has an odd number of octets, or not 64 of them, or a
character that is no hexadecimal digit, or in some place a digit of another value. -/
inductive Strays (signature s : String) : Prop
  | odd : (Text.bytes s).length % 2 = 1 → Strays signature s
  | length : (Text.bytes s).length ≠ 64 → Strays signature s
  | noDigit {c : Char} : c ∈ s.toList → Hex.value? c = none → Strays signature s
  | otherDigit {i : Nat} {c d : Char} : s.toList[i]? = some c → signature.toList[i]? = some d →
      Hex.value? c ≠ Hex.value? d → Strays signature s

section Straying

variable {signature s : String}

/-- Digits of the same values stray nowhere. -/
theorem not_strays_of_values (hsignature : IsSignature signature)
    (h : s.toList.map Hex.value? = signature.toList.map Hex.value?) : ¬ Strays signature s := by
  have hdigit : ∀ c ∈ s.toList, Hex.value? c ≠ none := by
    intro c hc hnone
    have hmem : none ∈ signature.toList.map Hex.value? := by
      rw [← h, ← hnone]
      exact List.mem_map_of_mem hc
    obtain ⟨d, hd, hvalue⟩ := List.mem_map.mp hmem
    exact Hex.value?_ne_none_of_mem_digits (hsignature.2 d hd) hvalue
  have hlength : (Text.bytes s).length = 64 := by
    rw [Hex.length_bytes_of_values hdigit, ← hsignature.1]
    simpa only [List.length_map] using congrArg List.length h
  intro hstrays
  cases hstrays with
  | odd hodd => omega
  | length hother => exact hother hlength
  | noDigit hc hnone => exact hdigit _ hc hnone
  | @otherDigit i c d hc hd hother =>
    have hplace := congrArg (fun l => l[i]?) h
    simp only [List.getElem?_map, hc, hd, Option.map_some, Option.some.injEq] at hplace
    exact hother hplace

/-- A text that strays nowhere has digits of the same values. -/
theorem values_of_not_strays (hsignature : IsSignature signature) (h : ¬ Strays signature s) :
    s.toList.map Hex.value? = signature.toList.map Hex.value? := by
  have hdigit : ∀ c ∈ s.toList, Hex.value? c ≠ none := fun c hc hnone => h (.noDigit hc hnone)
  have hlength : s.toList.length = signature.toList.length := by
    rw [← Hex.length_bytes_of_values hdigit, hsignature.1]
    exact Decidable.not_not.mp fun hother => h (.length hother)
  refine List.ext_getElem? fun i => ?_
  rw [List.getElem?_map, List.getElem?_map]
  by_cases hi : i < s.toList.length
  · have hc : s.toList[i]? = some s.toList[i] := List.getElem?_eq_getElem hi
    have hd : signature.toList[i]? = some signature.toList[i] :=
      List.getElem?_eq_getElem (hlength ▸ hi)
    rw [hc, hd, Option.map_some, Option.map_some]
    exact congrArg some (Decidable.not_not.mp fun hother => h (.otherDigit hc hd hother))
  · rw [List.getElem?_eq_none (Nat.le_of_not_lt hi),
      List.getElem?_eq_none (hlength ▸ Nat.le_of_not_lt hi)]

end Straying

/-- **Checking accepts the signature up to case.** Whatever the secret and the message, a text is
accepted just if it becomes their signature when its letters are made lower-case; so the signature
itself is accepted, and what is refused is just what strays from it. -/
theorem verify_accepts_up_to_case (secret message : Bytes) (s : String) :
    (verify secret message s = true ↔ s.toLower = sign secret message) ∧
      verify secret message (sign secret message) = true ∧
      (verify secret message s = false ↔ Strays (sign secret message) s) := by
  have hsignature := isSignature_sign secret message
  refine ⟨?_, verify_sign secret message, ?_⟩
  · have hlower : s.toLower.toList = s.toList.map Char.toLower := String.toList_map
    rw [verify_eq_true_iff, ← toList_sign, ← String.toList_inj, hlower]
  · rw [← Bool.not_eq_true, verify_eq_true_iff_values]
    exact ⟨fun h => Classical.not_not.mp fun hnot => h (values_of_not_strays hsignature hnot),
      fun h hvalues => not_strays_of_values hsignature hvalues h⟩

end LogVault.Hmac
