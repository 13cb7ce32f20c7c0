import MonkeyTokens.Proofs.Calls.Sequence
import MonkeyTokens.Proofs.Lexing.Located
import MonkeyTokens.Proofs.Lexing.Pieces

/-!
The course of a scan.

`Cursor.Passes` names once all that the reading of a token can come to, and what it passes
over: blanks and a literal, behind which the cursor faces the rest of the text; blanks up to
the end of the text; or all up to an error, which leaves the cursor halted. `Cursor.Taken`
says the same with regard to the whole text. From it the course of a scanner follows,
whatever it is asked for. It is `Underway` before its first character and as long as its
cursor faces a text, and it is `Spent` once nothing is left under its cursor. A call of a
scanner that is under way keeps it so or fails, and then it is spent (`call_of_underway`),
and spent is what a scanner stays (`call_of_spent`).
-/

namespace MonkeyTokens

open ByteStream Lexing

namespace Cursor

variable {origin : Decoder} {before cs text : List Char} {ending : Ending} {cur : Cursor}

/-- The cursor has just the first `i` characters of the text behind it. It has read these, and
the one that it holds or, in its place, the end. -/
structure Behind (origin : Decoder) (text : List Char) (i : Nat) (cur : Cursor) : Prop where
  le_length : i ≤ text.length
  held : cur.held = text[i]?
  decoder : cur.decoder = origin.afterReads (i + 1)

/-- A scan of the text ends in this error, and the cursor is halted where it stands. -/
inductive Fails (origin : Decoder) (text : List Char) (ending : Ending) :
    ScanError → Cursor → Prop where
  /-- All of the text is passed, and a failure follows it. -/
  | unreadable {e : ReadError} {cur : Cursor} : ending = .failure e → Halted origin text cur →
      Fails origin text ending ⟨.unreadable e, place text⟩ cur
  /-- A zero is passed, and a letter follows it that names no radix. -/
  | refused {before rest : List Char} {letter : Char} {cur : Cursor} :
      text = before ++ '0' :: letter :: rest → Halted origin (before ++ ['0']) cur →
      Fails origin text ending ⟨.unknownRadix letter, place (before ++ ['0'])⟩ cur

/-- What the reading of a token comes to for a cursor that has `before` behind it, and what
it passes over of the characters to come. -/
inductive Passes (origin : Decoder) (before : List Char) (ending : Ending) :
    List Char → Except ScanError Token × Cursor → Prop where
  | token {kind : Token.Kind} {blanks literal rest : List Char} {cur : Cursor} :
      (∀ b ∈ blanks, Blank b) → kind ≠ .endOfFile → literal ≠ [] → (∀ c ∈ literal, c ≠ '\n') →
      Faces origin (before ++ blanks ++ literal) ending rest cur →
      Passes origin before ending (blanks ++ literal ++ rest)
        (.ok (locate kind literal (before ++ blanks)), cur)
  | endOfFile {cs : List Char} {cur : Cursor} : (∀ b ∈ cs, Blank b) →
      Faces origin (before ++ cs) ending [] cur →
      Passes origin before ending cs (.ok (.endOfFile (place (before ++ cs))), cur)
  | fails {cs : List Char} {e : ScanError} {cur : Cursor} :
      Fails origin (before ++ cs) ending e cur → Passes origin before ending cs (.error e, cur)

/-- What the reading of a token in the text comes to. -/
inductive Taken (origin : Decoder) (text : List Char) (ending : Ending) :
    Except ScanError Token × Cursor → Prop where
  | token {kind : Token.Kind} {before literal rest : List Char} {cur : Cursor} :
      kind ≠ .endOfFile → literal ≠ [] → (∀ c ∈ literal, c ≠ '\n') →
      text = before ++ literal ++ rest → Faces origin (before ++ literal) ending rest cur →
      Taken origin text ending (.ok (locate kind literal before), cur)
  | endOfFile {cur : Cursor} : Faces origin text ending [] cur →
      Taken origin text ending (.ok (.endOfFile (place text)), cur)
  | fails {e : ScanError} {cur : Cursor} : Fails origin text ending e cur →
      Taken origin text ending (.error e, cur)

theorem Faces.behind (h : Faces origin before ending cs cur) :
    Behind origin (before ++ cs) before.length cur where
  le_length := by simp
  held := by
    rw [h.held_eq, List.getElem?_append_right (Nat.le_refl _), Nat.sub_self,
      List.head?_eq_getElem?]
  decoder := h.decoder_eq

theorem Fails.held_eq {e : ScanError} (h : Fails origin text ending e cur) :
    cur.held = none := by
  cases h with
  | unreadable _ h => exact h.held
  | refused _ h => exact h.held

/-- The end of the text and an error leave nothing under the cursor. -/
theorem Taken.held_eq {item : Scanner.Item} (h : Taken origin text ending (item, cur))
    (hlast : Scanner.isLast item = true) : cur.held = none := by
  cases h with
  | token hkind =>
    rw [Scanner.isLast, isEndOfFile_locate hkind] at hlast
    cases hlast
  | endOfFile h => exact h.held_eq
  | fails h => exact h.held_eq

/-- A cursor that faces a text reads a token of it, its end or an error. -/
theorem passes_token (h : Faces origin before ending cs cur) :
    Passes origin before ending cs (token cur) := by
  obtain ⟨blanks, tail, hrun⟩ := exists_maximalRun Blank cs
  cases tail with
  | nil =>
    obtain rfl : cs = blanks := by simpa using hrun.split
    have hland := lands_token_of_blanks hrun.all h
    generalize token cur = r at hland
    cases hland with
    | faces h' => exact .endOfFile hrun.all h'
    | fails he h' => exact .fails (.unreadable he h')
  | cons c tail =>
    rcases exists_lexeme (hrun.stops c rfl) tail with ⟨kind, literal, rest, hlex⟩ | ⟨letter, hbad⟩
    · have hland := lands_token hrun hlex h
      have hcs : cs = blanks ++ literal ++ rest := by
        rw [hrun.split, hlex.split, List.append_assoc]
      rw [hcs]
      generalize token cur = r at hland
      cases hland with
      | faces h' => exact .token hrun.all hlex.kind_ne hlex.ne_nil hlex.ne_newline h'
      | fails he h' =>
        refine .fails ?_
        rw [List.append_nil, ← List.append_assoc]
        exact .unreadable he h'
    · cases hbad with
      | @mk letter rest hletter hradix =>
        obtain ⟨cur', hhalted, htoken⟩ := token_of_badZero hrun hletter hradix h
        have hcs : before ++ cs = before ++ blanks ++ '0' :: letter :: rest := by
          rw [hrun.split, List.append_assoc]
        rw [htoken]
        exact .fails (.refused hcs hhalted)

/-- What is passed over is taken from the text. -/
theorem Passes.taken {r : Except ScanError Token × Cursor} (h : Passes origin before ending cs r) :
    Taken origin (before ++ cs) ending r := by
  cases h with
  | token _ hkind hne hline h' => exact .token hkind hne hline (by simp) h'
  | endOfFile _ h' => exact .endOfFile h'
  | fails h' => exact .fails h'

/-- A cursor that holds nothing reads the end of the text and stays as it is. -/
theorem token_of_held_none (h : cur.held = none) :
    token cur = (.ok (.endOfFile cur.position), cur) := by
  rw [token, bind_of_ok (skipBlanks_of_held_none h), bind_of_ok (here_apply cur), h]
  rfl

end Cursor

namespace Scanner

open Cursor

/-! ### Spent scanners -/

/-- Nothing is left under the cursor, and nothing will be read any more. -/
structure Spent (s : Scanner) : Prop where
  primed : s.primed = true
  held : s.cursor.held = none

/-- What is replied at the end of a scan, where the scanner stands at `p`: a token without
text and width, and to the reader of items that token or nothing. -/
inductive AtEnd (p : Position) : Call → Reply ScanError → Prop where
  | prime : AtEnd p .prime (.primed (.ok ()))
  | position : AtEnd p .position (.position p)
  | nextToken : AtEnd p .nextToken (.token (.ok ⟨.endOfFile, "", ⟨p, p⟩⟩))
  | item : AtEnd p .next? (.next (some (.ok ⟨.endOfFile, "", ⟨p, p⟩⟩)))
  | nothing : AtEnd p .next? (.next none)

theorem AtEnd.error?_eq {p : Position} {c : Call} {reply : Reply ScanError} (h : AtEnd p c reply) :
    reply.error? = none := by
  cases h <;> rfl

theorem AtEnd.isEndOfFile_eq {p : Position} {c : Call} {reply : Reply ScanError} {t : Token}
    (h : AtEnd p c reply) (hitem : reply.item? = some (.ok t)) : t.isEndOfFile = true := by
  cases h <;> cases hitem <;> rfl

section

variable {s : Scanner}

theorem nextToken_of_spent (h : Spent s) :
    s.nextToken = (.ok (.endOfFile s.position), s.record (.token (.endOfFile s.position))) := by
  simp only [nextToken, prime_of_primed h.primed, perform, token_of_held_none h.held]
  rfl

/-- A call of a spent scanner is replied as at the end, and does not touch the cursor. -/
theorem call_of_spent (h : Spent s) (c : Call) :
    AtEnd s.position c (s.call c).1 ∧ (s.call c).2.cursor = s.cursor ∧ Spent (s.call c).2 := by
  cases c with
  | prime =>
    rw [call, prime_of_primed h.primed]
    exact ⟨.prime, rfl, h⟩
  | position => exact ⟨.position, rfl, h⟩
  | nextToken =>
    rw [call, nextToken_of_spent h]
    exact ⟨.nextToken, rfl, h.primed, h.held⟩
  | next? =>
    cases hfin : s.finished with
    | true =>
      rw [call, next?_of_finished hfin]
      exact ⟨.nothing, rfl, h⟩
    | false =>
      rw [call, next?_of_unfinished hfin, nextToken_of_spent h]
      exact ⟨.item, rfl, h.primed, h.held⟩

/-- All that a spent scanner replies is what is replied at the end. -/
theorem replies_of_spent (h : Spent s) (calls : List Call) :
    List.Forall₂ (AtEnd s.position) calls (s.replies calls) := by
  induction calls generalizing s with
  | nil => exact .nil
  | cons c calls ih =>
    obtain ⟨hreply, hcursor, hspent⟩ := call_of_spent h c
    have hposition : (s.call c).2.position = s.position := congrArg Cursor.position hcursor
    exact .cons hreply (hposition ▸ ih hspent)

/-! ### Scanners that are under way -/

/-- The scanner has read nothing, or its cursor faces what is left of the text. -/
inductive Underway (source : ByteStream) (text : List Char) (ending : Ending) : Scanner → Prop where
  | fresh {s : Scanner} : s.primed = false → s.cursor = .ofStream source →
      Underway source text ending s
  | facing {s : Scanner} {before cs : List Char} : s.primed = true →
      Faces (.ofStream source) before ending cs s.cursor → text = before ++ cs →
      Underway source text ending s

variable {source : ByteStream} {text : List Char} {ending : Ending}

theorem underway_ofStream (source : ByteStream) (text : List Char) (ending : Ending) :
    Underway source text ending (ofStream source) := .fresh rfl rfl

theorem Underway.exists_faces (h : Underway source text ending s) (hprimed : s.primed = true) :
    ∃ before cs, Faces (.ofStream source) before ending cs s.cursor ∧ text = before ++ cs := by
  cases h with
  | fresh hfresh =>
    rw [hfresh] at hprimed
    cases hprimed
  | facing _ hfaces htext => exact ⟨_, _, hfaces, htext⟩

/-- The cursor under which the first character has been read faces the text, or has met
the failure that the text ends in. -/
theorem enter_of_underway (hsupply : Supplies source.answers text ending)
    (h : Underway source text ending s) :
    (∃ before cs cur, enter s.primed s.cursor = (.ok (), cur) ∧
        Faces (.ofStream source) before ending cs cur ∧ text = before ++ cs) ∨
      ∃ e cur, enter s.primed s.cursor = (.error e, cur) ∧
        Fails (.ofStream source) text ending e cur := by
  cases h with
  | fresh hprimed hcursor =>
    have hland : Lands () (.ofStream source) [] ending text (advance (.ofStream source)) :=
      lands_advance_of_supplies rfl hsupply rfl none
    rw [hprimed, hcursor, enter, if_neg Bool.false_ne_true]
    generalize hr : advance (.ofStream source) = r at hland
    cases hland with
    | faces h => exact .inl ⟨[], _, _, rfl, h, rfl⟩
    | fails he h => exact .inr ⟨_, _, rfl, .unreadable he h⟩
  | facing hprimed hfaces htext =>
    rw [hprimed, enter, if_pos rfl]
    exact .inl ⟨_, _, _, rfl, hfaces, htext⟩

/-- A token is taken from the text by a scanner that is under way. -/
theorem nextToken_of_underway (hsupply : Supplies source.answers text ending)
    (h : Underway source text ending s) : ∃ item cur log,
      s.nextToken = (item, ⟨cur, true, s.finished, log⟩) ∧
        Taken (.ofStream source) text ending (item, cur) := by
  obtain ⟨log, hnext⟩ := nextToken_eq s
  refine ⟨_, _, log, hnext, ?_⟩
  rcases enter_of_underway hsupply h with ⟨before, cs, cur, henter, h', rfl⟩ | ⟨e, cur, henter, h'⟩
  · rw [bind_of_ok henter]
    exact (passes_token h').taken
  · rw [bind_of_error henter]
    exact .fails h'

/-- What a call of a scanner that is under way comes to: it goes on, and an item that is
replied was taken from the text, or it fails and nothing is left. -/
inductive Proceeds (source : ByteStream) (text : List Char) (ending : Ending) :
    Reply ScanError × Scanner → Prop where
  | goesOn {reply : Reply ScanError} {s : Scanner} : reply.error? = none →
      Underway source text ending s →
      (∀ item, reply.item? = some item →
        s.primed = true ∧ Taken (.ofStream source) text ending (item, s.cursor)) →
      Proceeds source text ending (reply, s)
  | fails {reply : Reply ScanError} {s : Scanner} {e : ScanError} : reply.error? = some e →
      Spent s → Fails (.ofStream source) text ending e s.cursor →
      Proceeds source text ending (reply, s)

theorem proceeds_of_taken {reply : Reply ScanError} {item : Item} (hitem : reply.item? = some item)
    (hprimed : s.primed = true) (h : Taken (.ofStream source) text ending (item, s.cursor)) :
    Proceeds source text ending (reply, s) := by
  have hitems : ∀ item', reply.item? = some item' →
      s.primed = true ∧ Taken (.ofStream source) text ending (item', s.cursor) := by
    intro item' hitem'
    obtain rfl := Option.some.inj (hitem.symm.trans hitem')
    exact ⟨hprimed, h⟩
  generalize hcur : s.cursor = cur at h
  cases h with
  | token _ _ _ htext hfaces =>
    refine .goesOn (Reply.error?_of_item?_ok hitem) (.facing hprimed (hcur ▸ hfaces) htext) hitems
  | endOfFile hfaces =>
    have htext : text = text ++ [] := (List.append_nil text).symm
    exact .goesOn (Reply.error?_of_item?_ok hitem) (.facing hprimed (hcur ▸ hfaces) htext) hitems
  | fails hfails =>
    have hheld : s.cursor.held = none := by rw [hcur, hfails.held_eq]
    exact .fails (Reply.error?_of_item?_error hitem) ⟨hprimed, hheld⟩ (hcur ▸ hfails)

/-- Whatever is called, a scanner that is under way goes on or fails. -/
theorem call_of_underway (hsupply : Supplies source.answers text ending)
    (h : Underway source text ending s) (c : Call) :
    Proceeds source text ending (s.call c) := by
  cases c with
  | prime =>
    obtain ⟨log, hprime⟩ := prime_eq s
    rw [call, hprime]
    rcases enter_of_underway hsupply h with
      ⟨before, cs, cur, henter, h', htext⟩ | ⟨e, cur, henter, h'⟩
    · rw [henter]
      refine .goesOn rfl (.facing rfl h' htext) ?_
      rintro item ⟨⟩
    · rw [henter]
      exact .fails rfl ⟨rfl, h'.held_eq⟩ h'
  | position =>
    refine .goesOn rfl h ?_
    rintro item ⟨⟩
  | nextToken =>
    obtain ⟨item, cur, log, hnext, htaken⟩ := nextToken_of_underway hsupply h
    rw [call, hnext]
    exact proceeds_of_taken rfl rfl htaken
  | next? =>
    cases hfin : s.finished with
    | true =>
      rw [call, next?_of_finished hfin]
      refine .goesOn rfl h ?_
      rintro item ⟨⟩
    | false =>
      obtain ⟨item, cur, log, hnext, htaken⟩ := nextToken_of_underway hsupply h
      rw [call, next?_of_unfinished hfin, hnext]
      exact proceeds_of_taken rfl rfl htaken

/-- A final reply is the last that a scanner under way gives. -/
theorem Proceeds.spent_of_isFinal {reply : Reply ScanError}
    (h : Proceeds source text ending (reply, s)) (hfinal : reply.isFinal = true) : Spent s := by
  cases h with
  | goesOn herror _ hitems =>
    rcases Reply.error?_or_item?_of_isFinal hfinal with ⟨e, he⟩ | ⟨item, hitem, hlast⟩
    · rw [he] at herror
      cases herror
    · obtain ⟨hprimed, htaken⟩ := hitems item hitem
      exact ⟨hprimed, htaken.held_eq hlast⟩
  | fails _ hspent _ => exact hspent

theorem Proceeds.taken_of_item?_ok {reply : Reply ScanError} {t : Token}
    (h : Proceeds source text ending (reply, s)) (hitem : reply.item? = some (.ok t)) :
    Taken (.ofStream source) text ending (.ok t, s.cursor) := by
  cases h with
  | goesOn _ _ hitems => exact (hitems _ hitem).2
  | fails herror _ _ =>
    rw [Reply.error?_of_item?_ok hitem] at herror
    cases herror

theorem Proceeds.fails_of_error? {reply : Reply ScanError} {e : ScanError}
    (h : Proceeds source text ending (reply, s)) (herror : reply.error? = some e) :
    Fails (.ofStream source) text ending e s.cursor := by
  cases h with
  | goesOn hok _ _ =>
    rw [hok] at herror
    cases herror
  | fails herror' _ hfails =>
    obtain rfl := Option.some.inj (herror'.symm.trans herror)
    exact hfails

/-- However a scanner is called, it is under way, or it is spent and its cursor is as a failure
has left it. -/
theorem underway_or_failed (hsupply : Supplies source.answers text ending) (calls : List Call) :
    Underway source text ending ((ofStream source).after calls) ∨
      Spent ((ofStream source).after calls) ∧
        ∃ e, Fails (.ofStream source) text ending e ((ofStream source).after calls).cursor := by
  refine after_induction (P := fun s => Underway source text ending s ∨
    Spent s ∧ ∃ e, Fails (.ofStream source) text ending e s.cursor) ?_ calls
    (.inl (underway_ofStream source text ending))
  rintro s (h | ⟨h, e, hfails⟩) c
  · have hcall := call_of_underway hsupply h c
    generalize s.call c = r at hcall
    cases hcall with
    | goesOn _ h' _ => exact .inl h'
    | fails _ h' hfails => exact .inr ⟨h', _, hfails⟩
  · obtain ⟨-, hcursor, h'⟩ := call_of_spent h c
    exact .inr ⟨h', e, hcursor ▸ hfails⟩

/-- However a scanner is called, it is under way or spent. -/
theorem underway_or_spent (hsupply : Supplies source.answers text ending) (calls : List Call) :
    Underway source text ending ((ofStream source).after calls) ∨
      Spent ((ofStream source).after calls) :=
  (underway_or_failed hsupply calls).imp_right And.left

end

end Scanner

end MonkeyTokens
