import StudyPlan.Proofs.Text.Parts
import StudyPlan.Text.Quoted

/-! Quoted texts can be told apart: each character is written so that it is known from the text where
it ends and which one it is. -/
namespace StudyPlan.Text

theorem digitTold : ∀ d < 16, ∀ e < 16, Nat.digitChar d = Nat.digitChar e → d = e := by decide

theorem digitInside : ∀ d < 16, Nat.digitChar d ≠ '}' := by decide

theorem hexTold {n m : Nat} (same : Nat.toDigits 16 n = Nat.toDigits 16 m) : n = m := by
  induction n using Nat.strongRecOn generalizing m with
  | ind n ih =>
    rw [Nat.toDigits_eq_if (by decide), Nat.toDigits_eq_if (n := m) (by decide)] at same
    have below (k : Nat) : k % 16 < 16 := Nat.mod_lt _ (by decide)
    split at same <;> split at same
    · exact digitTold n (by assumption) m (by assumption) (by simpa using same)
    · have lengths := congrArg List.length same
      simp [Nat.toDigits_ne_nil] at lengths
    · have lengths := congrArg List.length same
      simp [Nat.toDigits_ne_nil] at lengths
    · obtain ⟨front, last⟩ := List.append_inj' same rfl
      have quotient := ih (n / 16) (by omega) front
      have remainder := digitTold _ (below n) _ (below m) (by simpa using last)
      omega

theorem hexInside (n : Nat) : '}' ∉ Nat.toDigits 16 n := by
  induction n using Nat.strongRecOn with
  | ind n ih =>
    rw [Nat.toDigits_eq_if (by decide)]
    split
    · simp [(digitInside n (by assumption)).symm]
    · have last := digitInside (n % 16) (Nat.mod_lt _ (by decide))
      simp [last.symm, ih (n / 16) (by omega)]

namespace Quoted

def escapes : List (Char × Char) :=
  [('"', '"'), ('\\', '\\'), ('\n', 'n'), ('\r', 'r'), ('\t', 't'), ('\x00', '0')]

inductive Written (c : Char) : List Char → Prop where
  | itself (plain : c ≠ '\\') : Written c [c]
  | escaped {letter : Char} (known : (c, letter) ∈ escapes) : Written c ['\\', letter]
  | numbered : Written c ('\\' :: 'u' :: '\x7b' :: (Nat.toDigits 16 c.toNat ++ ['\x7d']))

theorem charWritten (c : Char) : Written c (encodeChar c).toList := by
  unfold encodeChar
  iterate 6
    split
    · rename_i here
      subst here
      exact .escaped (by decide)
  split
  · have text : ("\\u\x7b" ++ hex c.toNat ++ "\x7d").toList =
        '\\' :: 'u' :: '\x7b' :: (Nat.toDigits 16 c.toNat ++ ['\x7d']) := by
      simp [hex]
    rw [text]
    exact .numbered
  · have text : c.toString.toList = [c] := by simp
    rw [text]
    exact .itself (by assumption)

theorem escapeTold : ∀ x ∈ escapes, ∀ y ∈ escapes, x.2 = y.2 → x.1 = y.1 := by decide

theorem escapeShort : ∀ x ∈ escapes, x.2 ≠ 'u' := by decide

theorem charTold {c d : Char} {text text' rest rest' : List Char} (written : Written c text)
    (written' : Written d text') (same : text ++ rest = text' ++ rest') : c = d ∧ rest = rest' := by
  cases written with
  | itself plain =>
    cases written' with
    | itself => simpa using same
    | escaped => exact absurd (List.cons.inj same).1 plain
    | numbered => exact absurd (List.cons.inj same).1 plain
  | @escaped letter known =>
    cases written' with
    | itself plain => exact absurd (List.cons.inj same).1.symm plain
    | @escaped letter' known' =>
      simp only [List.cons_append, List.nil_append, List.cons.injEq, true_and] at same
      exact ⟨escapeTold _ known _ known' same.1, same.2⟩
    | numbered =>
      simp only [List.cons_append, List.nil_append, List.cons.injEq, true_and] at same
      exact absurd same.1 (escapeShort _ known)
  | numbered =>
    cases written' with
    | itself plain => exact absurd (List.cons.inj same).1.symm plain
    | escaped known =>
      simp only [List.cons_append, List.nil_append, List.cons.injEq, true_and] at same
      exact absurd same.1.symm (escapeShort _ known)
    | numbered =>
      simp only [List.cons_append, List.append_assoc, List.nil_append, List.cons.injEq,
        true_and] at same
      have inside (n : Nat) : ∀ c ∈ Nat.toDigits 16 n, ¬ c = '}' := by
        rintro c among rfl
        exact hexInside n among
      obtain ⟨digits, -, behind⟩ := splitAtFirst (inside _) (inside _) rfl rfl same
      exact ⟨Char.toNat_inj.mp (hexTold digits), behind⟩

theorem charsTold {cs ds : List Char} (same : (cs.flatMap fun c => (encodeChar c).toList) =
    ds.flatMap fun c => (encodeChar c).toList) : cs = ds := by
  have present (c : Char) : (encodeChar c).toList ≠ [] := by
    have written := charWritten c
    intro blank
    rw [blank] at written
    cases written
  induction cs generalizing ds with
  | nil =>
    cases ds with
    | nil => rfl
    | cons d ds => simp [present] at same
  | cons c cs ih =>
    cases ds with
    | nil => simp [present] at same
    | cons d ds =>
      obtain ⟨rfl, behind⟩ := charTold (charWritten c) (charWritten d) same
      rw [ih behind]

theorem textTold {s t : String} (same : encode s = encode t) : s = t := by
  have inside := behindTold (endingTold same)
  have texts := congrArg String.toList inside
  simp only [String.toList_join, List.flatMap_map] at texts
  exact String.toList_inj.mp (charsTold texts)

end Quoted
end StudyPlan.Text
