/-!
# Positions in bytes

Positions in a text are counted in the bytes of its UTF-8 form, so that an editor and the library
agree on them whatever characters the text holds. `slice?` is the only way to use a pair of
positions as a range: it answers only if both lie on character boundaries in order.
-/

namespace FilterLang.Text

/-- The number of bytes of a text. -/
def byteLength (cs : List Char) : Nat := cs.foldr (fun c n ↦ c.utf8Size + n) 0

/-- The number of bytes of a string. -/
def byteSize (s : String) : Nat := byteLength s.toList

@[simp] theorem byteLength_nil : byteLength [] = 0 := rfl

@[simp] theorem byteLength_cons (c : Char) (cs : List Char) :
    byteLength (c :: cs) = c.utf8Size + byteLength cs := rfl

@[simp] theorem byteLength_append (cs ds : List Char) :
    byteLength (cs ++ ds) = byteLength cs + byteLength ds := by
  induction cs with
  | nil => simp
  | cons c cs ih => simp [ih, Nat.add_assoc]

theorem byteLength_pos {cs : List Char} (h : cs ≠ []) : 0 < byteLength cs := by
  cases cs with
  | nil => exact absurd rfl h
  | cons c cs =>
    have := Char.utf8Size_pos c
    simp only [byteLength_cons]
    omega

/-- Cuts a text after `n` bytes, if a character ends there. -/
def cutAt? : Nat → List Char → Option (List Char × List Char)
  | 0, cs => some ([], cs)
  | _, [] => none
  | n, c :: cs =>
    if c.utf8Size ≤ n then
      (cutAt? (n - c.utf8Size) cs).map fun (before, after) ↦ (c :: before, after)
    else none

/-- The characters of a text from byte `start` to byte `stop`. -/
def slice? (cs : List Char) (start stop : Nat) : Option (List Char) :=
  if start ≤ stop then do
    let (_, after) ← cutAt? start cs
    let (middle, _) ← cutAt? (stop - start) after
    return middle
  else none

/-- What is cut makes up the text again, and the first part has the given length. -/
theorem eq_of_cutAt? {n : Nat} {cs before after : List Char}
    (h : cutAt? n cs = some (before, after)) : cs = before ++ after ∧ byteLength before = n := by
  induction cs generalizing n before after with
  | nil =>
    cases n with
    | zero => simp_all [cutAt?]
    | succ n => simp [cutAt?] at h
  | cons c cs ih =>
    cases n with
    | zero => simp_all [cutAt?]
    | succ n =>
      simp only [cutAt?] at h
      split at h
      · obtain ⟨⟨b, a⟩, hb, he⟩ := Option.map_eq_some_iff.1 h
        obtain ⟨rfl, rfl⟩ := Prod.mk.inj he
        obtain ⟨rfl, hl⟩ := ih hb
        exact ⟨rfl, by rw [byteLength_cons, hl]; omega⟩
      · simp at h

/-- A text can be cut after each of its beginnings. -/
theorem cutAt?_append (before after : List Char) :
    cutAt? (byteLength before) (before ++ after) = some (before, after) := by
  induction before with
  | nil => cases after <;> simp [cutAt?]
  | cons c cs ih =>
    have := Char.utf8Size_pos c
    rw [byteLength_cons, List.cons_append]
    obtain ⟨n, hn⟩ : ∃ n, c.utf8Size + byteLength cs = n + 1 :=
      ⟨c.utf8Size + byteLength cs - 1, by omega⟩
    rw [hn, cutAt?, if_pos (by omega), show n + 1 - c.utf8Size = byteLength cs by omega, ih]
    · rfl
    · exact Nat.succ_ne_zero n

end FilterLang.Text
