/-!
# Pieces of texts

Cutting a text at the occurrences of another one, leftmost first and without
overlap, and putting pieces together again.

* `join_pieces`: putting the pieces together with the text they were cut at
  gives the text back;
* `pieces_join`: cutting at a character gives back the pieces that were put
  together with it, if they are without it.
-/

namespace SamTemplate

/-- Puts a character in front of the first piece. -/
def extendFirst (c : Char) : List (List Char) → List (List Char)
  | [] => [[c]]
  | piece :: rest => (c :: piece) :: rest

/-- The pieces of a text between the occurrences of `delimiter`, of which the
    first `skip` characters of the text are the rest of one. -/
def piecesFrom (delimiter : List Char) : Nat → List Char → List (List Char)
  | _, [] => [[]]
  | skip + 1, _ :: rest => piecesFrom delimiter skip rest
  | 0, c :: rest =>
    if delimiter.isPrefixOf (c :: rest) then
      [] :: piecesFrom delimiter (delimiter.length - 1) rest
    else extendFirst c (piecesFrom delimiter 0 rest)

/-- The pieces of a text between the occurrences of a text that is not empty. -/
def pieces (delimiter text : String) : List String :=
  (piecesFrom delimiter.toList 0 text.toList).map String.ofList

/-- The pieces put together, with `separator` between each two. -/
def join (separator : String) (parts : List String) : String :=
  String.ofList (separator.toList.intercalate (parts.map String.toList))

/-- Even the empty text has a piece. -/
theorem piecesFrom_ne_nil (delimiter : List Char) (skip : Nat) (text : List Char) :
    piecesFrom delimiter skip text ≠ [] := by
  induction text generalizing skip with
  | nil => simp [piecesFrom]
  | cons c rest ih =>
    cases skip with
    | succ skip => exact ih skip
    | zero =>
      simp only [piecesFrom]
      split
      · simp
      · cases h : piecesFrom delimiter 0 rest <;> simp [extendFirst]

/-- A character in front of the first piece is one in front of all of them. -/
theorem intercalate_extendFirst (delimiter : List Char) (c : Char) (parts : List (List Char)) :
    delimiter.intercalate (extendFirst c parts) = c :: delimiter.intercalate parts := by
  match parts with
  | [] => simp [extendFirst, List.intercalate]
  | [piece] => simp [extendFirst, List.intercalate]
  | piece :: next :: rest => simp [extendFirst, List.intercalate, List.intersperse]

/-- An empty piece in front of others is a delimiter in front of them. -/
theorem intercalate_nil_cons (delimiter : List Char) {parts : List (List Char)} (h : parts ≠ []) :
    delimiter.intercalate ([] :: parts) = delimiter ++ delimiter.intercalate parts := by
  cases parts with
  | nil => exact absurd rfl h
  | cons piece rest => simp [List.intercalate, List.intersperse]

/-- The pieces with the delimiter between them are the text, without what is skipped. -/
theorem intercalate_piecesFrom {delimiter : List Char} (hd : delimiter ≠ []) (skip : Nat)
    (text : List Char) :
    delimiter.intercalate (piecesFrom delimiter skip text) = text.drop skip := by
  induction text generalizing skip with
  | nil => cases skip <;> simp [piecesFrom, List.intercalate]
  | cons c rest ih =>
    cases skip with
    | succ skip => simpa [piecesFrom] using ih skip
    | zero =>
      simp only [piecesFrom]
      split
      · rename_i hprefix
        -- The delimiter begins here, and its other characters are skipped.
        rw [intercalate_nil_cons _ (piecesFrom_ne_nil _ _ _), ih]
        obtain ⟨tail, htail⟩ := List.isPrefixOf_iff_prefix.1 hprefix
        cases delimiter with
        | nil => exact absurd rfl hd
        | cons d ds =>
          simp only [List.cons_append, List.cons.injEq] at htail
          obtain ⟨rfl, rfl⟩ := htail
          simp
      · rw [intercalate_extendFirst, ih]
        simp

theorem join_pieces {delimiter : String} (hd : delimiter ≠ "") (text : String) :
    join delimiter (pieces delimiter text) = text := by
  have hne : delimiter.toList ≠ [] := fun h => hd (String.ext (by simpa using h))
  simp [join, pieces, Function.comp_def, intercalate_piecesFrom hne]

/-- A text without the character that it is cut at is one piece. -/
theorem piecesFrom_of_notMem {c : Char} {text : List Char} (h : c ∉ text) :
    piecesFrom [c] 0 text = [text] := by
  induction text with
  | nil => rfl
  | cons first rest ih =>
    obtain ⟨hfirst, hrest⟩ := not_or.1 (mt List.mem_cons.2 h)
    have hprefix : [c].isPrefixOf (first :: rest) = false := by
      simp [List.isPrefixOf, hfirst]
    rw [piecesFrom, hprefix, if_neg Bool.false_ne_true, ih hrest, extendFirst]

/-- The first piece ends where the delimiter stands first. -/
theorem piecesFrom_append {c : Char} {text rest : List Char} (h : c ∉ text) :
    piecesFrom [c] 0 (text ++ c :: rest) = text :: piecesFrom [c] 0 rest := by
  induction text with
  | nil =>
    have hprefix : [c].isPrefixOf (c :: rest) = true := by simp
    rw [List.nil_append, piecesFrom, hprefix, if_pos rfl]
    rfl
  | cons first others ih =>
    obtain ⟨hfirst, hothers⟩ := not_or.1 (mt List.mem_cons.2 h)
    have hprefix : [c].isPrefixOf (first :: (others ++ c :: rest)) = false := by
      simp [List.isPrefixOf, hfirst]
    rw [List.cons_append, piecesFrom, hprefix, if_neg Bool.false_ne_true, ih hothers, extendFirst]

theorem piecesFrom_intercalate {c : Char} {parts : List (List Char)} (hne : parts ≠ [])
    (h : ∀ part ∈ parts, c ∉ part) : piecesFrom [c] 0 ([c].intercalate parts) = parts := by
  induction parts with
  | nil => exact absurd rfl hne
  | cons part rest ih =>
    obtain ⟨hpart, hrest⟩ := List.forall_mem_cons.1 h
    cases rest with
    | nil => rw [List.intercalate_singleton, piecesFrom_of_notMem hpart]
    | cons next others =>
      have hcut : [c].intercalate (part :: next :: others)
          = part ++ c :: [c].intercalate (next :: others) := by
        rw [List.intercalate_cons_cons, List.append_assoc, List.singleton_append]
      rw [hcut, piecesFrom_append hpart, ih (List.cons_ne_nil _ _) hrest]

theorem pieces_join {delimiter : String} {c : Char} (hd : delimiter.toList = [c])
    {parts : List String} (hne : parts ≠ []) (h : ∀ part ∈ parts, c ∉ part.toList) :
    pieces delimiter (join delimiter parts) = parts := by
  have hparts : ∀ part ∈ parts.map String.toList, c ∉ part := by simpa using h
  rw [pieces, join, hd, String.toList_ofList,
    piecesFrom_intercalate (by simpa using hne) hparts]
  simp [Function.comp_def]

/-- Whether a text occurs in another one. -/
def occursIn (part : List Char) : List Char → Bool
  | [] => part.isEmpty
  | c :: rest => part.isPrefixOf (c :: rest) || occursIn part rest

/-- A text occurs in those that it is an infix of. -/
theorem occursIn_eq_true_iff {part text : List Char} :
    occursIn part text = true ↔ part <:+: text := by
  induction text with
  | nil => simp [occursIn]
  | cons c rest ih => simp [occursIn, List.infix_cons_iff, ih]

/-- Whether a text contains another one. -/
def contains (text part : String) : Bool := occursIn part.toList text.toList

end SamTemplate
