import MonkeyTokens.Proofs.Calls.Sequence
import MonkeyTokens.Proofs.Lexing.Located
import MonkeyTokens.Proofs.Lexing.Pieces
import MonkeyTokens.Scanner.Items

/-!
The items of a source.

What a scanner returns depends on nothing but the characters that its source supplies,
how they end, and how they are cut into pieces: the tokens of the pieces, each located
behind the pieces before it, and one last item, which is the end of the text or the
error that ends the scan. A failure is met by the lexeme that touches it, so the piece
that does is no token (`kept`). The main statement is `items_ofStream`.
-/

namespace MonkeyTokens

open ByteStream Lexing

/-! ### Tokens of pieces -/

/-- The tokens of pieces that stand behind the text `before`. -/
def tokensFrom (before : List Char) : List Piece → List Token
  | [] => []
  | p :: ps =>
    locate p.kind p.literal (before ++ p.blanks) ::
      tokensFrom (before ++ p.blanks ++ p.literal) ps

theorem tokensFrom_append (before : List Char) (ps qs : List Piece) :
    tokensFrom before (ps ++ qs) = tokensFrom before ps ++ tokensFrom (before ++ textOf ps) qs := by
  induction ps generalizing before with
  | nil => simp [tokensFrom]
  | cons p ps ih => simp [tokensFrom, ih]

theorem tokensFrom_mono {ps qs : List Piece} (h : ps <+: qs) (before : List Char) :
    tokensFrom before ps <+: tokensFrom before qs := by
  obtain ⟨rs, rfl⟩ := h
  rw [tokensFrom_append]
  exact List.prefix_append _ _

/-- The tokens of pieces are tokens of something in the text. -/
theorem isEndOfFile_tokensFrom {cs : List Char} {ps : List Piece} {stop : Stop}
    (h : Lexes cs ps stop) (before : List Char) :
    ∀ t ∈ tokensFrom before ps, t.isEndOfFile = false := by
  induction h generalizing before with
  | clean => simp [tokensFrom]
  | refused => simp [tokensFrom]
  | piece _ hlex _ ih =>
    intro t ht
    rcases List.mem_cons.mp ht with rfl | ht
    · exact isEndOfFile_locate hlex.kind_ne _ _
    · exact ih _ t ht

/-- The item that ends a scan, where `before` stands before what is left of the text. -/
def lastItem (before : List Char) : Ending → Stop → Scanner.Item
  | _, .refused blanks letter _ =>
    .error ⟨.unknownRadix letter, place (before ++ blanks ++ ['0'])⟩
  | .endOfInput, .clean blanks => .ok (.endOfFile (place (before ++ blanks)))
  | .failure e, .clean blanks => .error ⟨.unreadable e, place (before ++ blanks)⟩

/-- The pieces that are read as tokens. -/
def kept (ps : List Piece) (stop : Stop) : Ending → List Piece
  | .endOfInput => ps
  | .failure _ => settled ps stop

theorem kept_cons {rest : List Char} {p : Piece} {ps : List Piece} {stop : Stop}
    (h : Lexes rest ps stop) {ending : Ending} (hne : rest = [] → ending = .endOfInput) :
    kept (p :: ps) stop ending = p :: kept ps stop ending := by
  cases ending with
  | endOfInput => rfl
  | failure e =>
    refine settled_cons h ?_
    intro hrest
    cases hne hrest

@[simp] theorem kept_nil (stop : Stop) (ending : Ending) : kept [] stop ending = [] := by
  cases ending with
  | endOfInput => rfl
  | failure e => exact settled_nil stop

/-- Pieces that do not touch the end of the text are read however it ends. -/
theorem settled_prefix_kept (ps : List Piece) (stop : Stop) (ending : Ending) :
    settled ps stop <+: kept ps stop ending := by
  cases ending with
  | endOfInput => exact settled_prefix_self ps stop
  | failure e => exact List.prefix_rfl

theorem kept_prefix_self (ps : List Piece) (stop : Stop) (ending : Ending) :
    kept ps stop ending <+: ps := by
  cases ending with
  | endOfInput => exact List.prefix_rfl
  | failure => exact settled_prefix_self ps stop

/-- None of the tokens that are read is the end of the text. -/
theorem isEndOfFile_kept {cs : List Char} {ps : List Piece} {stop : Stop}
    (h : Lexes cs ps stop) (ending : Ending) :
    ∀ t ∈ tokensFrom [] (kept ps stop ending), t.isEndOfFile = false := by
  intro t ht
  have hmem := (tokensFrom_mono (kept_prefix_self ps stop ending) []).subset ht
  exact isEndOfFile_tokensFrom h [] t hmem

theorem lastItem_cases (before : List Char) (ending : Ending) (stop : Stop) :
    (∃ p, lastItem before ending stop = .ok (.endOfFile p)) ∨
      ∃ e, lastItem before ending stop = .error e := by
  cases stop with
  | refused => exact .inr ⟨_, by cases ending <;> rfl⟩
  | clean =>
    cases ending with
    | endOfInput => exact .inl ⟨_, rfl⟩
    | failure => exact .inr ⟨_, rfl⟩

namespace Scanner

/-! ### Items, one call at a time -/

theorem items_eq (s : Scanner) : s.items = match s.next? with
    | (none, _) => []
    | (some item, s') => item :: s'.items := by
  rw [items, rest_eq]
  rcases s.next? with ⟨_ | item, s'⟩ <;> rfl

theorem items_of_finished {s : Scanner} (h : s.finished = true) : s.items = [] := by
  rw [items_eq, next?_of_finished h]

/-- The item at which a scan ends is the last. -/
theorem items_of_last {s s' : Scanner} {item : Item} (h : s.finished = false)
    (hlast : isLast item = true) (hnext : s.nextToken = (item, s')) : s.items = [item] := by
  rw [items_eq, next?_of_unfinished h, hnext]
  simp only [hlast]
  rw [items_of_finished rfl]

/-- Behind a token the items go on as the tokens do. -/
theorem items_of_nextToken {s s' : Scanner} {t : Token} (h : s.finished = false)
    (ht : t.isEndOfFile = false) (hnext : s.nextToken = (.ok t, s')) :
    s'.finished = false ∧ s.items = .ok t :: s'.items := by
  obtain ⟨log, heq⟩ := nextToken_eq s
  rw [hnext] at heq
  have h' : s'.finished = false := by rw [(Prod.mk.inj heq).2, ← h]
  have hs' : { s' with finished := false } = s' := by rw [← h']
  refine ⟨h', ?_⟩
  rw [items_eq, next?_of_unfinished h, hnext]
  simp only [isLast, ht, hs']

/-- A scanner that has read its first character and is not done. -/
structure Active (s : Scanner) : Prop where
  primed : s.primed = true
  unfinished : s.finished = false

/-- An active scanner goes on behind a token that its cursor reads. -/
theorem items_of_token {s : Scanner} {t : Token} {cur : Cursor} (h : s.Active)
    (ht : t.isEndOfFile = false) (htoken : Cursor.token s.cursor = (.ok t, cur)) :
    ∃ s' : Scanner, s'.Active ∧ s'.cursor = cur ∧ s.items = .ok t :: s'.items := by
  have hnext : s.nextToken = (.ok t, { s with cursor := cur }.record (.token t)) := by
    simp only [nextToken, prime_of_primed h.primed, perform, htoken]
  obtain ⟨hfin, hitems⟩ := items_of_nextToken h.unfinished ht hnext
  exact ⟨{ s with cursor := cur }.record (.token t), ⟨h.primed, hfin⟩, rfl, hitems⟩

theorem items_of_error {s : Scanner} {e : ScanError} {cur : Cursor} (h : s.Active)
    (htoken : Cursor.token s.cursor = (.error e, cur)) : s.items = [.error e] := by
  have hnext : s.nextToken = (.error e, { s with cursor := cur }.record (.failure e)) := by
    simp only [nextToken, prime_of_primed h.primed, perform, htoken, recordFailure_eq]
  exact items_of_last h.unfinished rfl hnext

theorem items_of_endOfFile {s : Scanner} {p : Position} {cur : Cursor} (h : s.Active)
    (htoken : Cursor.token s.cursor = (.ok (.endOfFile p), cur)) :
    s.items = [.ok (.endOfFile p)] := by
  have hnext : s.nextToken =
      (.ok (.endOfFile p), { s with cursor := cur }.record (.token (.endOfFile p))) := by
    simp only [nextToken, prime_of_primed h.primed, perform, htoken]
  exact items_of_last h.unfinished rfl hnext

/-! ### Items of a text -/

/-- The items of a scanner whose cursor faces a text. -/
theorem items_of_faces {origin : Decoder} {cs : List Char} {ps : List Piece} {stop : Stop}
    {ending : Ending} (hlexes : Lexes cs ps stop) :
    ∀ (before : List Char) (s : Scanner), s.Active →
    Cursor.Faces origin before ending cs s.cursor →
    s.items = (tokensFrom before (kept ps stop ending)).map .ok
      ++ [lastItem (before ++ textOf ps) ending stop] := by
  induction hlexes with
  | @clean blanks hblank =>
    intro before s hs h
    have hland := Cursor.lands_token_of_blanks hblank h
    generalize hr : Cursor.token s.cursor = r at hland
    cases hland with
    | faces h' =>
      cases h' with
      | endOfInput _ hending =>
        subst hending
        rw [items_of_endOfFile hs hr]
        simp [tokensFrom, lastItem]
    | fails hending =>
      subst hending
      rw [items_of_error hs hr]
      simp [tokensFrom, lastItem]
  | refused hrun hletter hradix =>
    intro before s hs h
    obtain ⟨cur, -, htoken⟩ := Cursor.token_of_badZero hrun hletter hradix h
    rw [items_of_error hs htoken]
    cases ending <;> simp [tokensFrom, lastItem]
  | @piece cs blanks text literal rest kind ps stop hrun hlex hrest ih =>
    intro before s hs h
    have hland := Cursor.lands_token hrun hlex h
    generalize hr : Cursor.token s.cursor = r at hland
    cases hland with
    | @faces _ cur h' =>
      have hne : rest = [] → ending = .endOfInput := by
        rintro rfl
        cases h' with
        | endOfInput _ hending => exact hending
      obtain ⟨s', hs', rfl, hitems⟩ := items_of_token hs (isEndOfFile_locate hlex.kind_ne _ _) hr
      rw [hitems, ih _ s' hs' h', kept_cons hrest hne]
      simp [tokensFrom]
    | fails hending =>
      -- The lexeme touches the failure, and nothing is left behind it.
      subst hending
      obtain ⟨rfl, rfl⟩ := hrest.of_nil
      rw [items_of_error hs hr]
      simp [kept, settled, tokensFrom, lastItem]

/-- Reading the first character beforehand changes no item. -/
theorem items_of_prime {s s' : Scanner} (hs : s.finished = false) (hs' : s'.Active)
    (h : s.prime = (.ok (), s')) : s.items = s'.items := by
  rw [items_eq, items_eq s', next?_of_unfinished hs, next?_of_unfinished hs'.unfinished,
    nextToken_of_prime h hs'.primed]

/-- **The items of a source.** They are the tokens of the pieces that the supplied
characters are cut into, as far as they do not touch a failure, and one last item. -/
theorem items_ofStream {s : ByteStream} {cs : List Char} {ending : Ending} {ps : List Piece}
    {stop : Stop} (hsupply : Supplies s.answers cs ending) (hlexes : Lexes cs ps stop) :
    (ofStream s).items = (tokensFrom [] (kept ps stop ending)).map .ok
      ++ [lastItem (textOf ps) ending stop] := by
  have hland : Cursor.Lands () (.ofStream s) [] ending cs (Cursor.advance (Cursor.ofStream s)) :=
    Cursor.lands_advance_of_supplies rfl hsupply rfl none
  generalize hr : Cursor.advance (Cursor.ofStream s) = r at hland
  cases hland with
  | @faces _ cur h =>
    have hprime : (ofStream s).prime = (.ok (), ⟨cur, true, false, #[.priming]⟩) := by
      simp only [prime, ofStream, perform, record, hr]
      rfl
    have hactive : Active ⟨cur, true, false, #[.priming]⟩ := ⟨rfl, rfl⟩
    rw [items_of_prime rfl hactive hprime]
    exact items_of_faces hlexes [] _ hactive h
  | @fails e cur hending =>
    subst hending
    obtain ⟨rfl, rfl⟩ := hlexes.of_nil
    have hnext : (ofStream s).nextToken =
        (.error ⟨.unreadable e, place []⟩,
          Scanner.record (.failure ⟨.unreadable e, place []⟩) ⟨cur, true, false, #[.priming]⟩) := by
      simp only [nextToken, prime, ofStream, perform, record, hr]
      rfl
    rw [items_of_last rfl rfl hnext]
    rfl

end Scanner

end MonkeyTokens
