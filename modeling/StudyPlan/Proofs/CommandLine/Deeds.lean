import Mathlib.Logic.Function.Basic
import StudyPlan.CommandLine.Level

/-! What the words of a level come to: deeds that raise a flag or give a slot its value. Reading the
words has an outcome if each deed may be done, and this is what can be told of it. -/
namespace StudyPlan

inductive Deed where
  | raise (flag : Flag)
  | fill (slot : Slot) (text : String)
  | place (text : String)
  deriving DecidableEq

def Deed.isVoice (d : Deed) : Bool := d = .raise .verbose || d = .raise .quiet

structure View where
  tally : Flag → Nat
  value : Slot → Option String
  positional : Option Slot

namespace View

def tallied (v : View) (flag : Flag) (n : Nat) : View :=
  { v with tally := Function.update v.tally flag n }

def mayRaise (v : View) : Flag → Bool
  | .help => false
  | .version => false
  | .verbose => true
  | flag => v.tally flag = 0

def fill (v : View) (slot : Slot) (text : String) : Option View :=
  if (v.value slot).isSome then none
  else if slot.accepts text then
    some { v with value := Function.update v.value slot (some text) }
  else none

def apply (v : View) : Deed → Option View
  | .raise flag =>
    if v.mayRaise flag then some (v.tallied flag (min (v.tally flag + 1) 255)) else none
  | .fill slot text => v.fill slot text
  | .place text => v.positional.bind fun slot => { v with positional := none }.fill slot text

def after (v : View) : List Deed → Option View
  | [] => some v
  | d :: rest => (v.apply d).bind (·.after rest)

theorem afterAppend (v : View) (deeds more : List Deed) :
    v.after (deeds ++ more) = (v.after deeds).bind (·.after more) := by
  induction deeds generalizing v with
  | nil => rfl
  | cons d rest ih => simp only [List.cons_append, after, Option.bind_assoc, ih]

theorem fillBeside (v : View) (flag : Flag) (n : Nat) (slot : Slot) (text : String) :
    (v.tallied flag n).fill slot text = (v.fill slot text).map (·.tallied flag n) := by
  by_cases taken : (v.value slot).isSome
  · simp [fill, tallied, taken]
  · cases accepts : slot.accepts text <;> simp [fill, tallied, taken, accepts]

theorem applyBeside (v : View) {flag : Flag} {d : Deed} (other : d ≠ .raise flag) (n : Nat) :
    (v.tallied flag n).apply d = (v.apply d).map (·.tallied flag n) := by
  cases d with
  | raise next =>
    have apart : next ≠ flag := fun same => other (congrArg Deed.raise same)
    have same : (v.tallied flag n).tally next = v.tally next := Function.update_of_ne apart ..
    have may : (v.tallied flag n).mayRaise next = v.mayRaise next := by
      cases next <;> simp only [mayRaise, same]
    simp only [apply, may, same]
    split
    · simp [tallied, Function.update_comm apart]
    · rfl
  | fill slot text => exact v.fillBeside flag n slot text
  | place text =>
    simp only [apply]
    cases positional : v.positional with
    | none => simp [tallied, positional]
    | some slot =>
      simp only [tallied, positional]
      exact fillBeside { v with positional := none } flag n slot text

theorem afterBeside (v : View) {flag : Flag} {deeds : List Deed} (others : .raise flag ∉ deeds)
    (n : Nat) : (v.tallied flag n).after deeds = (v.after deeds).map (·.tallied flag n) := by
  induction deeds generalizing v with
  | nil => rfl
  | cons d rest ih =>
    simp only [List.mem_cons, not_or] at others
    rw [after, v.applyBeside (Ne.symm others.1), after]
    cases v.apply d with
    | none => rfl
    | some w => exact ih w others.2

theorem afterKeeps {v w : View} {flag : Flag} {deeds : List Deed} (others : .raise flag ∉ deeds)
    (done : v.after deeds = some w) : w.tally flag = v.tally flag := by
  have same : v.tallied flag (v.tally flag) = v := by simp [tallied]
  have beside := v.afterBeside others (v.tally flag)
  rw [same, done] at beside
  rw [Option.some.inj beside]
  exact Function.update_self ..

theorem raiseLater (v : View) {flag : Flag} {deeds : List Deed} (others : .raise flag ∉ deeds) :
    (v.apply (.raise flag)).bind (·.after deeds) =
      (v.after deeds).bind (·.apply (.raise flag)) := by
  cases done : v.after deeds with
  | none =>
    simp only [apply]
    split
    · simp [v.afterBeside others, done]
    · rfl
  | some w =>
    have kept := afterKeeps others done
    have may : w.mayRaise flag = v.mayRaise flag := by
      cases flag <;> simp only [mayRaise, kept]
    simp only [apply, Option.bind_some, may, kept]
    split
    · simp [v.afterBeside others, done]
    · rfl

theorem tallyOne {v w : View} {d : Deed} (done : v.apply d = some w) (flag : Flag) :
    w.tally flag = if d = .raise flag then min (v.tally flag + 1) 255 else v.tally flag := by
  split
  · rename_i same
    subst same
    simp only [apply] at done
    split at done
    · cases done
      exact Function.update_self ..
    · contradiction
  · rename_i other
    have alone : v.after [d] = some w := by simp [after, done]
    exact afterKeeps (by simpa using Ne.symm other) alone

theorem tallyAll {v w : View} {deeds : List Deed} (done : v.after deeds = some w) {flag : Flag}
    (bounded : v.tally flag ≤ 255) :
    w.tally flag = min (v.tally flag + deeds.count (.raise flag)) 255 := by
  induction deeds generalizing v with
  | nil =>
    cases done
    simpa using (Nat.min_eq_left bounded).symm
  | cons d rest ih =>
    obtain ⟨u, first, later⟩ := Option.bind_eq_some_iff.mp done
    have one := tallyOne first flag
    have all := ih later (by rw [one]; split <;> omega)
    rw [all, one, List.count_cons]
    simp only [beq_iff_eq]
    split <;> omega

theorem raisedFresh {v w : View} {flag : Flag} (other : flag ≠ .verbose)
    (done : v.apply (.raise flag) = some w) : v.tally flag = 0 := by
  simp only [apply] at done
  split at done
  · rename_i may
    cases flag <;> simp_all [mayRaise]
  · contradiction

theorem raisedOnce {v w : View} {deeds : List Deed} (done : v.after deeds = some w) {flag : Flag}
    (other : flag ≠ .verbose) (once : v.tally flag ≤ 1) :
    v.tally flag + deeds.count (.raise flag) ≤ 1 := by
  induction deeds generalizing v with
  | nil => simpa using once
  | cons d rest ih =>
    obtain ⟨u, first, later⟩ := Option.bind_eq_some_iff.mp done
    have one := tallyOne first flag
    rw [List.count_cons]
    by_cases same : d = .raise flag
    · subst same
      have fresh := raisedFresh other first
      rw [if_pos rfl, fresh] at one
      have all := ih later (by omega)
      rw [if_pos (beq_self_eq_true _)]
      omega
    · rw [if_neg same] at one
      have all := ih later (by rw [one]; exact once)
      simpa [same, one] using all

theorem voicesLast (v : View) (deeds : List Deed) : v.after deeds =
    (v.after (deeds.filter (!·.isVoice))).bind (·.after (deeds.filter (·.isVoice))) := by
  induction deeds generalizing v with
  | nil => rfl
  | cons d rest ih =>
    have later : v.after (d :: rest) = (v.apply d).bind fun w =>
        (w.after (rest.filter (!·.isVoice))).bind (·.after (rest.filter (·.isVoice))) :=
      congrArg _ (funext ih)
    rw [later]
    cases voice : d.isVoice with
    | false => simp [voice, after, Option.bind_assoc]
    | true =>
      obtain ⟨flag, rfl⟩ : ∃ flag, d = .raise flag := by
        cases d with
        | raise flag => exact ⟨flag, rfl⟩
        | _ => contradiction
      have others : .raise flag ∉ rest.filter (!·.isVoice) := by simp [voice]
      rw [← Option.bind_assoc, v.raiseLater others]
      simp [voice, after, Option.bind_assoc]

end View

end StudyPlan
