import MonkeyTokens.Proofs.Lexing.Grammar

/-!
A text in pieces.

`Lexes` cuts a text from its beginning: a `Piece` is a lexeme with the maximal run of
blanks before it, and a `Stop` is what is left after the last piece. Nothing is lost on
the way (`Lexes.text_eq`), every text can be cut (`exists_lexes`), and what is cut off
before the last lexeme does not depend on what follows the text
(`Lexes.refused_append`, `Lexes.settled_append`).
-/

namespace MonkeyTokens.Lexing

/-- A lexeme and the blanks before it. -/
structure Piece where
  blanks : List Char
  kind : Token.Kind
  literal : List Char
deriving DecidableEq, Repr

namespace Piece

/-- All the characters of a piece. -/
def text (p : Piece) : List Char := p.blanks ++ p.literal

end Piece

/-- What is left of a text after its last piece. -/
inductive Stop where
  /-- Nothing but blanks. -/
  | clean (blanks : List Char)
  /-- A zero with a letter that names no radix, and what follows them. -/
  | refused (blanks : List Char) (letter : Char) (rest : List Char)
deriving DecidableEq, Repr

/-- The characters that are left. -/
def Stop.text : Stop → List Char
  | .clean blanks => blanks
  | .refused blanks letter rest => blanks ++ '0' :: letter :: rest

/-- All the characters of some pieces. -/
def textOf (ps : List Piece) : List Char := ps.flatMap Piece.text

@[simp] theorem textOf_nil : textOf [] = [] := rfl

@[simp] theorem textOf_cons (p : Piece) (ps : List Piece) :
    textOf (p :: ps) = p.blanks ++ p.literal ++ textOf ps := by
  simp [textOf, Piece.text]

@[simp] theorem textOf_append (ps qs : List Piece) : textOf (ps ++ qs) = textOf ps ++ textOf qs :=
  List.flatMap_append

/-- The text is cut into these pieces, and this is left. -/
inductive Lexes : List Char → List Piece → Stop → Prop where
  | clean {blanks : List Char} : (∀ c ∈ blanks, Blank c) → Lexes blanks [] (.clean blanks)
  | refused {cs blanks rest : List Char} {letter : Char} :
      MaximalRun Blank cs blanks ('0' :: letter :: rest) → Letter letter →
      (∀ r : Radix, letter ≠ r.letter) → Lexes cs [] (.refused blanks letter rest)
  | piece {cs blanks text literal rest : List Char} {kind : Token.Kind} {ps : List Piece}
      {stop : Stop} : MaximalRun Blank cs blanks text → Lexeme text kind literal rest →
      Lexes rest ps stop → Lexes cs (⟨blanks, kind, literal⟩ :: ps) stop

/-- A lexeme, or a bad zero, begins at the head of `text` in the course of cutting `cs`. -/
inductive Starts : List Char → List Char → Prop where
  | first {cs blanks text : List Char} : MaximalRun Blank cs blanks text → text ≠ [] →
      Starts cs text
  | later {cs blanks text literal rest text' : List Char} {kind : Token.Kind} :
      MaximalRun Blank cs blanks text → Lexeme text kind literal rest → Starts rest text' →
      Starts cs text'

/-- The pieces and what is left make up the text. -/
theorem Lexes.text_eq {cs : List Char} {ps : List Piece} {stop : Stop} (h : Lexes cs ps stop) :
    cs = textOf ps ++ stop.text := by
  induction h with
  | clean => rfl
  | refused hrun => exact hrun.split
  | piece hrun hlex _ ih =>
    rw [hrun.split, hlex.split, ih]
    simp

/-- Every text can be cut. -/
theorem exists_lexes (cs : List Char) : ∃ ps stop, Lexes cs ps stop := by
  induction hn : cs.length using Nat.strongRecOn generalizing cs with
  | ind n ih =>
    obtain ⟨blanks, text, hrun⟩ := exists_maximalRun Blank cs
    cases text with
    | nil =>
      obtain rfl : cs = blanks := by simpa using hrun.split
      exact ⟨_, _, .clean hrun.all⟩
    | cons c text =>
      rcases exists_lexeme (hrun.stops c rfl) text with ⟨kind, literal, rest, hlex⟩ | ⟨letter, hbad⟩
      · have hlt : rest.length < n := by
          rw [← hn, hrun.split, hlex.split]
          have := List.length_pos_iff.mpr hlex.ne_nil
          simp
          omega
        obtain ⟨ps, stop, hrest⟩ := ih rest.length hlt rest rfl
        exact ⟨_, _, .piece hrun hlex hrest⟩
      · cases hbad with
        | mk hletter hradix => exact ⟨_, _, .refused hrun hletter hradix⟩

/-- Nothing can be cut from the empty text. -/
theorem Lexes.of_nil {ps : List Piece} {stop : Stop} (h : Lexes [] ps stop) :
    ps = [] ∧ stop = .clean [] := by
  have htext := h.text_eq
  cases h with
  | clean => exact ⟨rfl, rfl⟩
  | refused hrun => exact absurd (maximalRun_nil hrun).2 (by simp)
  | piece hrun hlex =>
    rw [(maximalRun_nil hrun).2] at hlex
    exact absurd (List.append_eq_nil_iff.mp hlex.split.symm).1 hlex.ne_nil

/-- A lexeme begins in a text that is cut up to a bad zero, and this is that zero. -/
theorem Starts.lexes {cs text : List Char} {letter : Char} (h : Starts cs text)
    (hbad : BadZero text letter) : ∃ ps blanks rest, Lexes cs ps (.refused blanks letter rest) := by
  induction h with
  | first hrun _ =>
    cases hbad with
    | mk hletter hradix => exact ⟨_, _, _, .refused hrun hletter hradix⟩
  | later hrun hlex _ ih =>
    obtain ⟨ps, blanks, rest, hrest⟩ := ih hbad
    exact ⟨_, _, _, .piece hrun hlex hrest⟩

/-- Where the cutting stops at a bad zero, this zero is the start of a lexeme. -/
theorem Lexes.starts {cs blanks rest : List Char} {letter : Char} {ps : List Piece}
    (h : Lexes cs ps (.refused blanks letter rest)) :
    ∃ text, Starts cs text ∧ BadZero text letter := by
  generalize hstop : Stop.refused blanks letter rest = stop at h
  induction h with
  | clean => cases hstop
  | refused hrun hletter hradix =>
    cases hstop
    exact ⟨_, .first hrun (by simp), .mk hletter hradix⟩
  | piece hrun hlex _ ih =>
    obtain ⟨text, hstarts, hbad⟩ := ih hstop
    exact ⟨text, .later hrun hlex hstarts, hbad⟩

/-! ### Texts that go on -/

/-- A bad zero ends the cutting whatever follows the text. -/
theorem Lexes.refused_append {cs blanks rest : List Char} {letter : Char} {ps : List Piece}
    (h : Lexes cs ps (.refused blanks letter rest)) (more : List Char) :
    Lexes (cs ++ more) ps (.refused blanks letter (rest ++ more)) := by
  generalize hstop : Stop.refused blanks letter rest = stop at h
  induction h with
  | clean => cases hstop
  | refused hrun hletter hradix =>
    cases hstop
    exact .refused (hrun.append (by simp) more) hletter hradix
  | @piece cs blanks' text literal rest' kind ps stop hrun hlex hrest ih =>
    have hne : rest' ≠ [] := by
      rintro rfl
      have hnil := hrest.of_nil.2
      rw [← hstop] at hnil
      cases hnil
    have htext : text ≠ [] := by
      rw [hlex.split]
      simp [hlex.ne_nil]
    exact .piece (hrun.append htext more) (hlex.append hne more) (ih hstop)

/-- The pieces that end before the text does. -/
def settled (ps : List Piece) : Stop → List Piece
  | .clean [] => ps.dropLast
  | _ => ps

@[simp] theorem settled_nil (stop : Stop) : settled [] stop = [] := by
  unfold settled
  split <;> rfl

@[simp] theorem settled_refused (ps : List Piece) (blanks rest : List Char) (letter : Char) :
    settled ps (.refused blanks letter rest) = ps := rfl

theorem settled_prefix_self (ps : List Piece) (stop : Stop) : settled ps stop <+: ps := by
  unfold settled
  split
  · exact List.dropLast_prefix ps
  · exact List.prefix_rfl

theorem settled_cons {cs : List Char} {p : Piece} {ps : List Piece} {stop : Stop}
    (h : Lexes cs ps stop) (hne : cs ≠ []) : settled (p :: ps) stop = p :: settled ps stop := by
  unfold settled
  split
  · cases ps with
    | nil => exact absurd h.text_eq hne
    | cons q qs => rfl
  · rfl

/-- The pieces that end before the text does are cut off whatever follows the text, and
end before that as well. -/
theorem Lexes.settled_append {cs : List Char} {ps : List Piece} {stop : Stop}
    (h : Lexes cs ps stop) (more : List Char) :
    ∃ qs stop', Lexes (cs ++ more) qs stop' ∧ settled ps stop <+: settled qs stop' := by
  induction h with
  | clean =>
    obtain ⟨qs, stop', hlexes⟩ := exists_lexes _
    exact ⟨qs, stop', hlexes, by simp⟩
  | refused =>
    obtain ⟨qs, stop', hlexes⟩ := exists_lexes _
    exact ⟨qs, stop', hlexes, by simp⟩
  | @piece cs blanks text literal rest kind ps stop hrun hlex hrest ih =>
    by_cases hne : rest = []
    · obtain ⟨rfl, rfl⟩ := (hne ▸ hrest).of_nil
      obtain ⟨qs, stop', hlexes⟩ := exists_lexes (cs ++ more)
      exact ⟨qs, stop', hlexes, List.nil_prefix⟩
    · obtain ⟨qs, stop', htail, hbegins⟩ := ih
      have htext : text ≠ [] := by
        rw [hlex.split]
        simp [hlex.ne_nil]
      have hmore : rest ++ more ≠ [] := by simp [hne]
      refine ⟨_, stop', .piece (hrun.append htext more) (hlex.append hne more) htail, ?_⟩
      rw [settled_cons hrest hne, settled_cons htail hmore]
      exact List.cons_prefix_cons.mpr ⟨rfl, hbegins⟩

end MonkeyTokens.Lexing
