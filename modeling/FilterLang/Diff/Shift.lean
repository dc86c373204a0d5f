import FilterLang.Diff

/-!
# Moving insertions together

A script is tidied so that insertions stand together: an insertion next to a kept run can trade
places with common items of it, and so it is moved towards the beginning and then towards the end as
far as that goes. Where it meets another insertion, the two become one. Deletions change places with
insertions but never move over what is kept. What a script starts from and what it arrives at stay
the same.

A place in a script is given by the edits before it, the nearest first, an edit, and the edits after
it.
-/

namespace FilterLang.Diff

variable {α : Type}

/-- An edit and the edits around it. -/
structure Place (α : Type) where
  before : Script α
  edit : Edit α
  after : Script α
  deriving Repr

/-- The script with kept items in front. -/
def keepFirst (items : List α) : Script α → Script α
  | .keep more :: rest => .keep (items ++ more) :: rest
  | rest => .keep items :: rest

/-- The reversed script with kept items behind. -/
def keepLast (items : List α) : Script α → Script α
  | .keep more :: rest => .keep (more ++ items) :: rest
  | rest => .keep items :: rest

/-- The script with a run of kept items in front, unless it is empty. -/
def keepUnlessEmpty (items : List α) (rest : Script α) : Script α :=
  if items.isEmpty then rest else .keep items :: rest

theorem weight_keepUnlessEmpty (items : List α) (rest : Script α) :
    Script.weight (keepUnlessEmpty items rest) ≤ items.length + 1 + Script.weight rest := by
  unfold keepUnlessEmpty
  split <;> simp [Edit.weight]

variable [BEq α]

/-- Moves a deletion or an insertion towards the beginning. -/
def moveUp (before : Script α) (e : Edit α) (after : Script α) : Place α :=
  match before, e with
  | .keep xs :: rest, .insert ys =>
    let n := commonSuffix xs ys
    if 0 < n then
      let moved := ys.drop (ys.length - n)
      moveUp (keepUnlessEmpty (xs.take (xs.length - n)) rest)
        (.insert (moved ++ ys.take (ys.length - n))) (keepFirst moved after)
    else if xs.isEmpty then moveUp rest (.insert ys) after
    else ⟨before, e, after⟩
  | .keep xs :: rest, .delete ys =>
    if xs.isEmpty then moveUp rest (.delete ys) after else ⟨before, e, after⟩
  | .delete xs :: rest, .insert ys => moveUp rest (.insert ys) (.delete xs :: after)
  | .insert xs :: rest, .delete ys => moveUp rest (.delete ys) (.insert xs :: after)
  | .insert xs :: rest, .insert ys => moveUp rest (.insert (xs ++ ys)) after
  | .delete xs :: rest, .delete ys => moveUp rest (.delete (xs ++ ys)) after
  | _, _ => ⟨before, e, after⟩
termination_by before.weight
decreasing_by
  all_goals simp only [Script.weight_cons, Edit.weight]
  · have h₁ := weight_keepUnlessEmpty (xs.take (xs.length - commonSuffix xs ys)) rest
    have h₂ := commonSuffix_le_left xs ys
    have : 0 < commonSuffix xs ys := by assumption
    simp only [List.length_take] at h₁
    omega
  all_goals omega

/-- Moves a deletion or an insertion towards the end. -/
def moveDown (before : Script α) (e : Edit α) (after : Script α) : Place α :=
  match after, e with
  | .keep xs :: rest, .insert ys =>
    let n := commonPrefix xs ys
    if 0 < n then
      let moved := ys.take n
      moveDown (keepLast moved before) (.insert (ys.drop n ++ moved))
        (keepUnlessEmpty (xs.drop n) rest)
    else if xs.isEmpty then moveDown before (.insert ys) rest
    else ⟨before, e, after⟩
  | .keep xs :: rest, .delete ys =>
    if xs.isEmpty then moveDown before (.delete ys) rest else ⟨before, e, after⟩
  | .delete xs :: rest, .insert ys => moveDown (.delete xs :: before) (.insert ys) rest
  | .insert xs :: rest, .delete ys => moveDown (.insert xs :: before) (.delete ys) rest
  | .insert xs :: rest, .insert ys => moveDown before (.insert (ys ++ xs)) rest
  | .delete xs :: rest, .delete ys => moveDown before (.delete (ys ++ xs)) rest
  | _, _ => ⟨before, e, after⟩
termination_by after.weight
decreasing_by
  all_goals simp only [Script.weight_cons, Edit.weight]
  · have h₁ := weight_keepUnlessEmpty (xs.drop (commonPrefix xs ys)) rest
    have h₂ := commonPrefix_le_left xs ys
    have : 0 < commonPrefix xs ys := by assumption
    simp only [List.length_drop] at h₁
    omega
  all_goals omega

/-- Moves every edit of a kind as far up and then as far down as it goes. Fuel bounds the number of
edits that are looked at. -/
def settle (wanted : Edit α → Bool) : Nat → Script α → Script α → Script α
  | 0, before, after => before.reverse ++ after
  | _ + 1, before, [] => before.reverse
  | fuel + 1, before, e :: after =>
    if wanted e then
      let up := moveUp before e after
      let down := moveDown up.before up.edit up.after
      settle wanted fuel (down.edit :: down.before) down.after
    else settle wanted fuel (e :: before) after

/-- The script with its deletions and then its insertions moved together. -/
def Script.tidy (s : Script α) : Script α :=
  let deletions := settle (fun | .delete _ => true | _ => false) (s.weight + 1) [] s
  settle (fun | .insert _ => true | _ => false) (deletions.weight + 1) [] deletions

end FilterLang.Diff
