import FilterLang.Validation

/-!
# What the checks record

A check records a problem in up to four places: its verdict, its list of errors or of warnings, and
the places to mark. `Report.Records cause` says that the four agree. A report is valid exactly if it
has no errors, and its errors and warnings are those of its marks, in the same order; `cause` tells
which error a mark stands for. That is the problem at the marked place, except for values without a
closing quote, where the error is about the value and the mark about its opening quote
(`unclosedCause`).

Each check keeps this for every single finding, so it holds of the joined reports. Only the error
that there is no expression at all has no mark, so where no token stands the structure is sound in
its verdict alone.
-/

namespace FilterLang

namespace Check

namespace Report

variable {cause : Highlight → Problem} {r s : Report} {rs : List Report} {t : Token}

/-- The places that a report marks with one severity. -/
def marks (r : Report) (severity : Severity) : List Highlight :=
  r.highlights.filter fun h ↦ h.severity == severity

theorem marks_append (r s : Report) (severity : Severity) :
    (r ++ s).marks severity = r.marks severity ++ s.marks severity :=
  List.filter_append ..

/-- Whether the verdict of a report and its lists say the same. -/
structure Records (cause : Highlight → Problem) (r : Report) : Prop where
  valid : r.valid = r.errors.isEmpty
  errors : r.errors = (r.marks .error).map cause
  warnings : r.warnings = (r.marks .warning).map Highlight.problem

theorem Records.empty : Report.empty.Records cause := ⟨rfl, rfl, rfl⟩

theorem valid_append_eq (hr : r.valid = r.errors.isEmpty) (hs : s.valid = s.errors.isEmpty) :
    (r ++ s).valid = (r ++ s).errors.isEmpty := by
  rw [valid_append, errors_append, hr, hs, Bool.eq_iff_iff]
  simp

theorem Records.append (hr : r.Records cause) (hs : s.Records cause) : (r ++ s).Records cause := by
  constructor
  · exact valid_append_eq hr.valid hs.valid
  · rw [errors_append, hr.errors, hs.errors, marks_append, List.map_append]
  · rw [warnings_append, hr.warnings, hs.warnings, marks_append, List.map_append]

theorem Records.join (h : ∀ r ∈ rs, r.Records cause) : (join rs).Records cause := by
  induction rs with
  | nil => exact .empty
  | cons r rs ih =>
    obtain ⟨hr, hrs⟩ := List.forall_mem_cons.1 h
    exact hr.append (ih hrs)

theorem Records.on {condition : Bool} (h : r.Records cause) : (on condition r).Records cause := by
  cases condition with
  | true => exact h
  | false => exact .empty

theorem Records.valid_iff (h : r.Records cause) : r.valid = true ↔ r.errors = [] := by
  rw [h.valid, List.isEmpty_iff]

/-- A report is valid exactly if it marks no error. -/
theorem Records.valid_iff_forall (h : r.Records cause) :
    r.valid = true ↔ ∀ m ∈ r.highlights, m.severity ≠ .error := by
  rw [h.valid_iff, h.errors, List.map_eq_nil_iff, marks, List.filter_eq_nil_iff]
  simp

/-- What an error stands for is marked. -/
theorem Records.exists_mark (h : r.Records cause) {p : Problem} (hp : p ∈ r.errors) :
    ∃ m ∈ r.highlights, m.severity = .error ∧ cause m = p := by
  rw [h.errors] at hp
  obtain ⟨m, hm, hcause⟩ := List.mem_map.1 hp
  obtain ⟨hm, hseverity⟩ := List.mem_filter.1 hm
  exact ⟨m, hm, by simpa using hseverity, hcause⟩

/-- Whether a report is part of another. -/
structure Within (r s : Report) : Prop where
  valid : s.valid = true → r.valid = true
  errors : r.errors.Sublist s.errors
  warnings : r.warnings.Sublist s.warnings
  highlights : r.highlights.Sublist s.highlights

theorem Within.refl (r : Report) : r.Within r := ⟨id, .refl _, .refl _, .refl _⟩

theorem Within.trans {a b c : Report} (h : a.Within b) (h' : b.Within c) : a.Within c :=
  ⟨h.valid ∘ h'.valid, h.errors.trans h'.errors, h.warnings.trans h'.warnings,
    h.highlights.trans h'.highlights⟩

theorem within_append_left (r s : Report) : r.Within (r ++ s) :=
  ⟨fun h ↦ (Bool.and_eq_true_iff.1 h).1, List.sublist_append_left .., List.sublist_append_left ..,
    List.sublist_append_left ..⟩

theorem within_append_right (r s : Report) : s.Within (r ++ s) :=
  ⟨fun h ↦ (Bool.and_eq_true_iff.1 h).2, List.sublist_append_right ..,
    List.sublist_append_right .., List.sublist_append_right ..⟩

theorem records_errorAt (start stop : Nat) (p : Problem) (suggestion : Option String) :
    (errorAt start stop p suggestion).Records Highlight.problem := ⟨rfl, rfl, rfl⟩

theorem records_errorOn (t : Token) (p : Problem) (suggestion : Option String) :
    (errorOn t p suggestion).Records Highlight.problem := records_errorAt ..

theorem records_warningOn (t : Token) (p : Problem) : (warningOn t p).Records cause :=
  ⟨rfl, rfl, rfl⟩

end Report

open Report

/-! ### The checks -/

/-- The error that a mark on the quote of a value stands for. -/
def unclosedCause (h : Highlight) : Problem := .unclosedValue h.start

variable {catalog : Catalog} {ts : List Token} {shapes : List Shape}

theorem records_checkField (catalog : Catalog) (s : Shape) :
    (checkField catalog s).Records Highlight.problem := by
  unfold checkField
  split
  · exact .empty
  · exact records_errorOn ..
  · exact records_errorOn ..

theorem records_checkFields (shapes : List Shape) (catalog : Catalog) :
    (checkFields shapes catalog).Records Highlight.problem :=
  .join (List.forall_mem_map.2 fun s _ ↦ records_checkField catalog s)

theorem records_checkOperand (operator : Token) (value : Option Token) :
    (checkOperand operator value).Records Highlight.problem := by
  unfold checkOperand
  split
  · exact records_errorOn ..
  · split
    · exact records_errorOn ..
    · exact .empty

theorem records_checkOperator (s : Shape) : (checkOperator s).Records Highlight.problem := by
  unfold checkOperator
  split
  · exact .empty
  · split
    · exact records_errorOn ..
    · split
      · exact records_checkOperand ..
      · split
        · exact .empty
        · exact records_errorOn ..

theorem records_checkOperators (shapes : List Shape) :
    (checkOperators shapes).Records Highlight.problem :=
  .join (List.forall_mem_map.2 fun s _ ↦ records_checkOperator s)

theorem records_ends (hts : ts ≠ []) : (Structure.ends ts).Records Highlight.problem := by
  obtain ⟨t, ts, rfl⟩ := List.exists_cons_of_ne_nil hts
  rw [Structure.ends, List.head?_cons, List.getLast?_cons]
  exact (records_errorOn ..).on.append (records_errorOn ..).on

theorem records_neighbours (t u : Token) :
    (Structure.neighbours t u).Records Highlight.problem :=
  ((((records_errorAt ..).on.append (records_errorOn ..).on).append (records_errorOn ..).on).append
    (records_errorOn ..).on)

theorem records_alone (t : Token) : (Structure.alone t).Records Highlight.problem := by
  unfold Structure.alone
  split
  · exact records_errorAt ..
  · exact records_errorOn ..
  · exact .empty

theorem records_misspelled (s : Shape) : (Structure.misspelled s).Records Highlight.problem := by
  unfold Structure.misspelled
  split
  · split
    · exact records_errorOn ..
    · exact .empty
  · exact .empty

/-- What is made of neighbours is made of two tokens that stand side by side. -/
theorem exists_neighbours_of_mem {α β : Type} {f : α → α → β} {as : List α} {b : β}
    (h : b ∈ List.zipWith f as as.tail) :
    ∃ front a a' back, as = front ++ a :: a' :: back ∧ b = f a a' := by
  induction as with
  | nil => cases h
  | cons a as ih =>
    cases as with
    | nil => cases h
    | cons a' as =>
      rcases List.mem_cons.1 h with rfl | h
      · exact ⟨[], a, a', as, rfl, rfl⟩
      · obtain ⟨front, c, c', back, hsplit, rfl⟩ := ih h
        exact ⟨a :: front, c, c', back, by rw [hsplit, List.cons_append], rfl⟩

/-- The check of the structure records what it finds, if there is anything to look at. -/
theorem records_checkStructure (hts : ts ≠ []) (shapes : List Shape) :
    (checkStructure ts shapes).Records Highlight.problem := by
  unfold checkStructure
  split
  · exact records_ends hts
  · refine (((records_ends hts).append (.join ?_)).append (.join ?_)).append (.join ?_)
    · intro r hr
      obtain ⟨-, t, u, -, -, rfl⟩ := exists_neighbours_of_mem hr
      exact records_neighbours t u
    · exact List.forall_mem_map.2 fun t _ ↦ records_alone t
    · exact List.forall_mem_map.2 fun s _ ↦ records_misspelled s

theorem records_checkParentheses (text : String) :
    (checkParentheses text).Records Highlight.problem := by
  refine Records.append (.join ?_) (.join ?_)
  · exact List.forall_mem_map.2 fun i _ ↦ records_errorAt ..
  · exact List.forall_mem_map.2 fun i _ ↦ records_errorAt ..

theorem records_checkValue (t : Token) : (checkValue t).Records unclosedCause := by
  unfold checkValue
  split
  · exact ⟨rfl, rfl, rfl⟩
  · split
    · exact records_warningOn ..
    · exact .empty

theorem records_checkPattern (s : Shape) : (checkPattern s).Records unclosedCause := by
  unfold checkPattern
  split
  · exact .empty
  · exact records_warningOn ..

theorem records_checkValues (ts : List Token) (shapes : List Shape) :
    (checkValues ts shapes).Records unclosedCause := by
  refine Records.append (.join ?_) (.join ?_)
  · exact List.forall_mem_map.2 fun t _ ↦ records_checkValue t
  · exact List.forall_mem_map.2 fun s _ ↦ records_checkPattern s

/-- Also where there is nothing to look at, the verdict on the structure is that of its errors. -/
theorem valid_checkStructure (ts : List Token) (shapes : List Shape) :
    (checkStructure ts shapes).valid = (checkStructure ts shapes).errors.isEmpty := by
  by_cases hts : ts = []
  · rw [hts]
    rfl
  · exact (records_checkStructure hts shapes).valid

theorem valid_checkStructure_iff :
    (checkStructure ts shapes).valid = true ↔ (checkStructure ts shapes).errors = [] := by
  rw [valid_checkStructure, List.isEmpty_iff]

end Check

/-! ### Validations -/

namespace Validation

open Check

variable {catalog : Catalog} {text : String} {tokens : List Token}

theorem records_treeReport (tokens : List Token) (text : String) :
    (treeReport tokens text).Records Highlight.problem := by
  unfold treeReport
  split
  · exact .empty
  · split
    · exact Report.records_errorOn ..
    · exact Report.records_errorAt ..

/-- The structure is recorded if any token is there, and its verdict is always that of its errors.
-/
theorem records_structural (htokens : Token.significant (tokenize catalog text) ≠ []) :
    (ofText catalog text).structural.Records Highlight.problem :=
  ((records_checkStructure htokens _).append (records_checkParentheses text)).append
    (records_treeReport _ text).on

theorem records_fields (catalog : Catalog) (text : String) :
    (ofText catalog text).fields.Records Highlight.problem := records_checkFields ..

theorem records_operators (catalog : Catalog) (text : String) :
    (ofText catalog text).operators.Records Highlight.problem := records_checkOperators _

theorem records_values (catalog : Catalog) (text : String) :
    (ofText catalog text).values.Records unclosedCause := records_checkValues ..

/-- Every part of a validation is valid exactly if it has no errors. -/
theorem valid_iff_errors_eq_nil {r : Report} (h : r ∈ (ofText catalog text).reports) :
    r.valid = true ↔ r.errors = [] := by
  suffices hvalid : r.valid = r.errors.isEmpty by rw [hvalid, List.isEmpty_iff]
  simp only [reports, List.mem_cons, List.not_mem_nil, or_false] at h
  rcases h with rfl | rfl | rfl | rfl
  · exact Report.valid_append_eq (Report.valid_append_eq (valid_checkStructure ..)
      (records_checkParentheses text).valid) (records_treeReport _ text).on.valid
  · exact (records_fields catalog text).valid
  · exact (records_operators catalog text).valid
  · exact (records_values catalog text).valid

end Validation

end FilterLang
