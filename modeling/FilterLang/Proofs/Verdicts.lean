import FilterLang.Validation
import Mathlib.Data.List.Induction
import Mathlib.Tactic.ByContra

/-!
# Verdicts of the server in a row

Verdicts of the server can be merged into a validation one after another. Each takes the place of
the one before, but what a rejection does to `valid` is never undone: after some verdicts the text
is valid exactly if it was and none of them rejected it, while the status that is shown for the
server is that of the last one (`foldl_merge`). So the flag and the indicators part as soon as
another verdict comes after the last rejection (`valid_iff_indicators_of_merges`). Nothing that was
found locally changes.
-/

namespace FilterLang.Validation

open Server

variable {v : Validation} {vs : List Verdict}

/-- One more verdict takes the place of the last one and can make a text invalid. -/
theorem foldl_merge (v : Validation) (vs : List Verdict) : vs.foldl merge v =
    { v with
      valid := v.valid && vs.all fun s ↦ !s.isRejection
      server := vs.getLast?.or v.server } := by
  induction vs using List.reverseRecOn with
  | nil => simp
  | append_singleton vs s ih =>
    rw [List.foldl_append, ih, List.foldl_cons, List.foldl_nil, merge, List.all_append,
      List.getLast?_concat]
    simp [Bool.and_assoc]

/-- A part that is checked locally is shown as wrong exactly if it is not valid. -/
theorem ofReport_ne_error_iff {r : Check.Report} :
    Indicator.ofReport r ≠ .error ↔ r.valid = true := by
  unfold Indicator.ofReport
  cases r.valid with
  | true => simp only [Bool.not_true, Bool.false_eq_true, if_false]; split <;> simp
  | false => simp

/-- The server is shown as wrong exactly if it rejected the text. -/
theorem ofVerdict_ne_error_iff {s : Option Verdict} :
    Indicator.ofVerdict s ≠ .error ↔ ¬ ∃ r ∈ s, r.isRejection = true := by
  cases s with
  | none => simp [Indicator.ofVerdict]
  | some r => cases hr : r.status <;> simp [Indicator.ofVerdict, Verdict.isRejection, hr]

theorem indicators_ne_error_iff : (∀ i ∈ v.indicators, i.2 ≠ .error) ↔
    v.localValid = true ∧ ¬ ∃ r ∈ v.server, r.isRejection = true := by
  simp only [indicators, List.forall_mem_cons, ofReport_ne_error_iff, ofVerdict_ne_error_iff,
    localValid, reports, List.all_cons, List.all_nil, Bool.and_eq_true]
  simp [and_assoc]

/-- After any verdicts of the server, a text is valid exactly if it was valid locally and none of
them rejected it; what was found locally stays as it is. The flag says the same as the indicators
exactly if no other verdict came after the last rejection, or the text was not valid anyway. -/
theorem valid_iff_indicators_of_merges (catalog : Catalog) (text : String) (vs : List Verdict) :
    let v := ofText catalog text
    let w := vs.foldl merge v
    (w.valid = true ↔ v.localValid = true ∧ ∀ s ∈ vs, s.isRejection = false) ∧
    ((w.valid = true ↔ ∀ i ∈ w.indicators, i.2 ≠ .error) ↔
      (v.localValid = true → (∃ s ∈ vs, s.isRejection = true) →
        ∃ s ∈ vs.getLast?, s.isRejection = true)) ∧
    w.localValid = v.localValid ∧ w.reports = v.reports ∧ w.highlights = v.highlights := by
  intro v w
  have hw : w = { v with valid := _, server := _ } := foldl_merge v vs
  have hlocal : w.localValid = v.localValid := by rw [hw]; rfl
  have hserver : w.server = vs.getLast? := by
    rw [hw]
    exact Option.or_none
  have hvalid : w.valid = true ↔ v.localValid = true ∧ ∀ s ∈ vs, s.isRejection = false := by
    have hflag : w.valid = (v.localValid && vs.all fun s ↦ !s.isRejection) := by rw [hw]; rfl
    rw [hflag]
    simp
  have hlast {s : Verdict} (hs : s ∈ vs.getLast?) : s ∈ vs := List.mem_of_getLast? hs
  refine ⟨hvalid, ?_, hlocal, by rw [hw]; rfl, by rw [hw]; rfl⟩
  rw [hvalid, indicators_ne_error_iff, hlocal, hserver]
  -- The flag depends on all verdicts and the indicators on the last, which must be a rejection.
  constructor
  · intro h hvalid hrejected
    by_contra hnone
    obtain ⟨s, hs, hrejection⟩ := hrejected
    have hall := (h.2 ⟨hvalid, hnone⟩).2 s hs
    simp [hrejection] at hall
  · intro h
    refine and_congr_right fun hvalid ↦ ⟨?_, fun hnone s hs ↦ ?_⟩
    · rintro hall ⟨s, hs, hrejection⟩
      simp [hall s (hlast hs)] at hrejection
    · rw [Bool.eq_false_iff]
      exact fun hrejection ↦ hnone (h hvalid ⟨s, hs, hrejection⟩)

/-- Confirmed after it was rejected, a text stays invalid, and no indicator shows an error. -/
theorem valid_of_confirmed_after_rejected :
    let w := [⟨.rejected "bad regex", none, none⟩, ⟨.confirmed, none, none⟩].foldl merge
      (ofText .builtin "channel_name contains 'x'")
    w.valid = false ∧ ∀ i ∈ w.indicators, i.2 ≠ .error := by
  decide +kernel

end FilterLang.Validation
