import MonkeyTokens.Proofs.Calls.Course
import MonkeyTokens.Proofs.Lexing.MaximalMunch

/-!
All ways to ask a scanner for its tokens agree.

A reader may ask for tokens or for items, may have the first character read beforehand,
and may look at the position in between. `delivered` is what such calls bring, and it is
what as many calls for a token alone bring (`nextTokens`). Two scanners that are asked in
different ways are kept side by side by `Abreast`: once their first characters have been
read, their cursors are the same. The reader of items is told that there are no more
exactly when it has been given the last one (`next?_eq_none_iff`). A whole text is read by
asking for tokens up to the last (`readAll`), and this is `tokenize`. The main statement is
`calls_agree`.
-/

namespace MonkeyTokens.Scanner

open Cursor

variable {s t : Scanner} {cur : Cursor}

/-! ### What calls bring -/

/-- The items that replies bring, in order. -/
def delivered (replies : List (Reply ScanError)) : List Item := replies.filterMap Reply.item?

/-- The results of `n` calls for a token. -/
def nextTokens : Nat → Scanner → List Item
  | 0, _ => []
  | n + 1, s => s.nextToken.1 :: nextTokens n s.nextToken.2

/-- Two scanners have the same cursor, once the first character has been read. -/
def Abreast (s t : Scanner) : Prop :=
  ∃ cur, enter s.primed s.cursor = (.ok (), cur) ∧ enter t.primed t.cursor = (.ok (), cur)

theorem nextToken_of_enter (h : enter s.primed s.cursor = (.ok (), cur)) : ∃ log,
    s.nextToken = ((token cur).1, ⟨(token cur).2, true, s.finished, log⟩) := by
  obtain ⟨log, hnext⟩ := nextToken_eq s
  rw [bind_of_ok h] at hnext
  exact ⟨log, hnext⟩

/-- Scanners abreast read the same token and are abreast behind it. -/
theorem Abreast.nextToken (h : Abreast s t) :
    s.nextToken.1 = t.nextToken.1 ∧ Abreast s.nextToken.2 t.nextToken.2 := by
  obtain ⟨cur, hs, ht⟩ := h
  obtain ⟨log, hs⟩ := nextToken_of_enter hs
  obtain ⟨log', ht⟩ := nextToken_of_enter ht
  rw [hs, ht]
  exact ⟨rfl, _, rfl, rfl⟩

/-- What a call of one of two scanners abreast comes to: it brings no item, and they are
still abreast, or it brings what the other is to bring next. -/
inductive Keeps (t : Scanner) : Reply ScanError × Scanner → Prop where
  | waits {reply : Reply ScanError} {s : Scanner} : reply.item? = none → reply.error? = none →
      Abreast s t → Keeps t (reply, s)
  | delivers {reply : Reply ScanError} {s : Scanner} : reply.item? = some t.nextToken.1 →
      Abreast s t.nextToken.2 → Keeps t (reply, s)

theorem call_of_abreast (h : Abreast s t) (c : Call) : Keeps t (s.call c) := by
  obtain ⟨hitem, hnext⟩ := h.nextToken
  cases c with
  | prime =>
    obtain ⟨cur, hs, ht⟩ := h
    obtain ⟨log, hprime⟩ := prime_eq s
    rw [call, hprime, hs]
    exact .waits rfl rfl ⟨cur, rfl, ht⟩
  | position => exact .waits rfl rfl h
  | nextToken => exact .delivers (congrArg some hitem) hnext
  | next? =>
    cases hfin : s.finished with
    | true =>
      rw [call, next?_of_finished hfin]
      exact .waits rfl rfl h
    | false =>
      rw [call, next?_of_unfinished hfin]
      exact .delivers (congrArg some hitem) hnext

/-- Any calls of one of two scanners abreast bring what calls for a token bring from the
other. -/
theorem delivered_of_abreast (h : Abreast s t) (calls : List Call) :
    (∀ result, .primed result ∈ s.replies calls → result = .ok ()) ∧
      delivered (s.replies calls) = t.nextTokens (delivered (s.replies calls)).length := by
  -- The scanner `t` moves only where `s` delivers, so that the two stay abreast.
  induction calls generalizing s t with
  | nil => exact ⟨by simp [replies_nil], rfl⟩
  | cons c calls ih =>
    have hcall := call_of_abreast h c
    rw [replies_cons]
    generalize s.call c = r at hcall
    cases hcall with
    | @waits reply s' hitem herror h' =>
      obtain ⟨hprimed, hdelivered⟩ := ih h'
      constructor
      · intro result hmem
        rcases List.mem_cons.mp hmem with rfl | hmem
        · cases result with
          | error e => cases herror
          | ok => rfl
        · exact hprimed result hmem
      · rwa [delivered, List.filterMap_cons_none hitem]
    | @delivers reply s' hitem h' =>
      obtain ⟨hprimed, hdelivered⟩ := ih h'
      constructor
      · intro result hmem
        rcases List.mem_cons.mp hmem with rfl | hmem
        · cases hitem
        · exact hprimed result hmem
      · rw [delivered, List.filterMap_cons_some hitem, List.length_cons, nextTokens]
        exact congrArg _ hdelivered

/-! ### The reader of items -/

theorem finished_call (s : Scanner) (c : Call) : (s.call c).2.finished = true ↔
    s.finished = true ∨ ∃ item, (s.call c).1 = .next (some item) ∧ isLast item = true := by
  cases c with
  | prime =>
    obtain ⟨log, hprime⟩ := prime_eq s
    simp [call, hprime]
  | position => simp [call]
  | nextToken =>
    obtain ⟨log, hnext⟩ := nextToken_eq s
    simp [call, hnext]
  | next? =>
    cases hfin : s.finished with
    | true => simp [call, next?_of_finished hfin, hfin]
    | false => simp [call, next?_of_unfinished hfin]

theorem finished_after (calls : List Call) (s : Scanner) : (s.after calls).finished = true ↔
    s.finished = true ∨
      ∃ item, .next (some item) ∈ s.replies calls ∧ isLast item = true := by
  induction calls generalizing s with
  | nil => simp [after_nil, replies_nil]
  | cons c calls ih =>
    rw [after_cons, ih, finished_call, replies_cons]
    simp only [List.mem_cons, or_and_right, exists_or, or_assoc, @eq_comm (Reply ScanError)]

/-- The reader of items is told that there are no more exactly when it has been given the
last of them. -/
theorem next?_eq_none_iff (source : ByteStream) (calls : List Call) :
    ((ofStream source).after calls).next?.1 = none ↔
      ∃ item, .next (some item) ∈ (ofStream source).replies calls ∧ isLast item = true := by
  have hfinished := finished_after calls (ofStream source)
  have hfresh : (ofStream source).finished ≠ true := Bool.false_ne_true
  rw [or_iff_right hfresh] at hfinished
  rw [← hfinished]
  cases hfin : ((ofStream source).after calls).finished with
  | true => simp [next?_of_finished hfin]
  | false => simp [next?_of_unfinished hfin]

/-! ### A first character that cannot be read -/

theorem enter_ofStream_of_ok {source : ByteStream} {c : Option Char}
    (h : (Decoder.ofStream source).read.1 = .ok c) :
    ∃ cur, enter false (.ofStream source) = (.ok (), cur) := by
  obtain ⟨d, hread⟩ : ∃ d, (Decoder.ofStream source).read = (.ok c, d) := ⟨_, Prod.ext h rfl⟩
  refine ⟨⟨d, c, .start, c.elim .start Position.start.after⟩, ?_⟩
  simp only [enter, Bool.false_eq_true, if_false, advance_apply, Cursor.ofStream, hread]

theorem enter_ofStream_of_error {source : ByteStream} {e : ReadError}
    (h : (Decoder.ofStream source).read.1 = .error e) :
    ∃ d, enter false (.ofStream source) =
      (.error ⟨.unreadable e, .start⟩, ⟨d, none, .start, .start⟩) := by
  obtain ⟨d, hread⟩ : ∃ d, (Decoder.ofStream source).read = (.error e, d) := ⟨_, Prod.ext h rfl⟩
  refine ⟨d, ?_⟩
  simp only [enter, Bool.false_eq_true, if_false, advance_apply, Cursor.ofStream, hread]
  rfl

/-- To ask where a scanner stands changes nothing. -/
theorem after_of_positions {calls : List Call} (h : ∀ c ∈ calls, c = .position) (s : Scanner) :
    s.after calls = s := by
  induction calls with
  | nil => rfl
  | cons c calls ih =>
    obtain ⟨rfl, hcalls⟩ := List.forall_mem_cons.mp h
    exact ih hcalls

/-- The first call that needs a character reports that there is none to be read. -/
theorem call_of_enter_error {e : ScanError} (hfin : s.finished = false)
    (h : enter s.primed s.cursor = (.error e, cur)) {c : Call} (hc : c ≠ .position) :
    (s.call c).1.error? = some e ∧ (s.call c).2.primed = true ∧ (s.call c).2.cursor = cur := by
  obtain ⟨log, hnext⟩ := nextToken_eq s
  rw [bind_of_error h] at hnext
  cases c with
  | prime =>
    obtain ⟨log', hprime⟩ := prime_eq s
    rw [call, hprime, h]
    exact ⟨rfl, rfl, rfl⟩
  | position => exact absurd rfl hc
  | nextToken =>
    rw [call, hnext]
    exact ⟨rfl, rfl, rfl⟩
  | next? =>
    rw [call, next?_of_unfinished hfin, hnext]
    exact ⟨rfl, rfl, rfl⟩

/-- A failure of the first read is reported once, by the first call that is more than a look
at the position, and all the other calls find the end of the text. -/
theorem calls_of_read_error {source : ByteStream} {e : ReadError}
    (h : (Decoder.ofStream source).read.1 = .error e) {waiting : List Call}
    (hwaiting : ∀ c ∈ waiting, c = .position) {c : Call} (hc : c ≠ .position)
    (later : List Call) :
    let s := (ofStream source).after waiting
    (s.call c).1.error? = some ⟨.unreadable e, ⟨1, 1⟩⟩ ∧
      List.Forall₂ (AtEnd ⟨1, 1⟩) later ((s.call c).2.replies later) := by
  intro s
  have hs : s = ofStream source := after_of_positions hwaiting _
  rw [hs]
  obtain ⟨d, henter⟩ := enter_ofStream_of_error h
  obtain ⟨herror, hprimed, hcursor⟩ := call_of_enter_error (s := ofStream source) rfl henter hc
  have hspent : Spent ((ofStream source).call c).2 := ⟨hprimed, by rw [hcursor]⟩
  have hposition : ((ofStream source).call c).2.position = ⟨1, 1⟩ := by
    rw [position, hcursor]
    rfl
  exact ⟨herror, hposition ▸ replies_of_spent hspent later⟩

/-! ### Whole texts -/

/-- The tokens up to the end of the text, or the error that comes before it. -/
def tokensToEnd (s : Scanner) : Except ScanError (List Token) :=
  match _ : s.nextToken with
  | (.error e, _) => .error e
  | (.ok t, s') =>
    if t.isEndOfFile then .ok [t]
    else do return t :: (← tokensToEnd s')
termination_by s.cursor.pending
decreasing_by
  rename_i hnext hlast
  exact pending_nextToken_lt hnext (by simpa using hlast)

theorem tokensToEnd_eq (s : Scanner) : s.tokensToEnd = match s.nextToken with
    | (.error e, _) => .error e
    | (.ok t, s') => if t.isEndOfFile then .ok [t] else do return t :: (← tokensToEnd s') := by
  rw [tokensToEnd]
  split <;> rename_i hnext <;> simp only [hnext]

/-- Reads the first character and then all the tokens. -/
def readAll (s : Scanner) : Except ScanError (List Token) :=
  match s.prime with
  | (.error e, _) => .error e
  | (.ok (), s') => s'.tokensToEnd

/-- The items of a scanner that is not done are its tokens up to the end of the text, or
those before an error and that error. -/
theorem items_of_tokensToEnd (hfin : s.finished = false) :
    match s.tokensToEnd with
    | .ok ts => s.items = ts.map .ok
    | .error e => ∃ ts : List Token, s.items = ts.map .ok ++ [.error e] := by
  fun_induction tokensToEnd s with
  | case1 s e s' hnext => exact ⟨[], items_of_last hfin rfl hnext⟩
  | case2 s t s' hnext hlast => exact items_of_last hfin hlast hnext
  | case3 s t s' hnext hlast ih =>
    obtain ⟨hfin', hitems⟩ := items_of_nextToken hfin (by simpa using hlast) hnext
    have hrest := ih hfin'
    rw [hitems]
    cases htokens : s'.tokensToEnd with
    | ok ts =>
      rw [htokens] at hrest
      exact congrArg _ hrest
    | error e =>
      rw [htokens] at hrest
      obtain ⟨ts, hts⟩ := hrest
      exact ⟨t :: ts, congrArg _ hts⟩

theorem mapM_items (hfin : s.finished = false) : s.items.mapM id = s.tokensToEnd := by
  have hitems := items_of_tokensToEnd hfin
  cases htokens : s.tokensToEnd with
  | ok ts =>
    rw [htokens] at hitems
    rw [hitems, mapM_id_ok]
  | error e =>
    rw [htokens] at hitems
    obtain ⟨ts, hts⟩ := hitems
    rw [hts, mapM_id_error]

/-- To read the first character beforehand makes no difference to the tokens. -/
theorem readAll_eq (s : Scanner) : s.readAll = s.tokensToEnd := by
  obtain ⟨log, hprime⟩ := prime_eq s
  unfold readAll
  generalize enter s.primed s.cursor = r at hprime
  obtain ⟨result, cur⟩ := r
  cases result with
  | error e =>
    have hnext : s.nextToken = (.error e, ⟨cur, true, s.finished, log⟩) := by
      simp only [nextToken, hprime]
    rw [hprime, tokensToEnd_eq, hnext]
  | ok =>
    rw [hprime, tokensToEnd_eq s, nextToken_of_prime hprime rfl, ← tokensToEnd_eq]

theorem tokenize_eq_readAll (text : String) : tokenize text = (ofString text).readAll := by
  rw [readAll_eq, tokenize, mapM_items rfl]

theorem tokenize_eq_ok_iff {text : String} {ts : List Token} :
    tokenize text = .ok ts ↔ (ofString text).items = ts.map .ok := by
  constructor
  · intro h
    have hitems := items_of_tokensToEnd (s := ofString text) rfl
    rwa [← mapM_items rfl, ← tokenize, h] at hitems
  · intro h
    rw [tokenize, h, mapM_id_ok]

theorem tokenize_eq_error_iff {text : String} {e : ScanError} :
    tokenize text = .error e ↔ (ofString text).items.getLast? = some (.error e) := by
  have hitems := items_of_tokensToEnd (s := ofString text) rfl
  rw [← mapM_items rfl, ← tokenize] at hitems
  cases htokens : tokenize text with
  | ok ts =>
    rw [htokens] at hitems
    rw [hitems, List.getLast?_map]
    cases ts.getLast? <;> simp
  | error e' =>
    rw [htokens] at hitems
    obtain ⟨ts, hts⟩ := hitems
    rw [hts, List.getLast?_concat]
    simp

/-- **All ways to ask a scanner for its tokens agree.** If the first character of a source
can be read, or its end, then whatever is called, to be primed succeeds, and the items
that are brought are the results of as many calls for a token alone. If it cannot, this is
reported at the start of the text by the first call that is more than a look at the
position, and all later calls find the end of the text there. In either case the reader of
items is told that there are no more exactly when it has been given the last one. A text
is tokenized by asking for all its tokens, and the result is that of reading its items. -/
theorem calls_agree (source : ByteStream) :
    (∀ c, (Decoder.ofStream source).read.1 = .ok c → ∀ calls,
        (∀ result, .primed result ∈ (ofStream source).replies calls → result = .ok ()) ∧
        delivered ((ofStream source).replies calls) =
          (ofStream source).nextTokens (delivered ((ofStream source).replies calls)).length) ∧
      (∀ calls, ((ofStream source).after calls).next?.1 = none ↔
        ∃ item, .next (some item) ∈ (ofStream source).replies calls ∧ isLast item = true) ∧
      (∀ e, (Decoder.ofStream source).read.1 = .error e → ∀ waiting c later,
        (∀ w ∈ waiting, w = .position) → c ≠ .position →
        let s := (ofStream source).after waiting
        (s.call c).1.error? = some ⟨.unreadable e, ⟨1, 1⟩⟩ ∧
          List.Forall₂ (AtEnd ⟨1, 1⟩) later ((s.call c).2.replies later)) ∧
      ∀ text, tokenize text = (ofString text).readAll ∧
        (∀ ts, tokenize text = .ok ts ↔ (ofString text).items = ts.map .ok) ∧
        ∀ e, tokenize text = .error e ↔ (ofString text).items.getLast? = some (.error e) := by
  refine ⟨?_, next?_eq_none_iff source, ?_, ?_⟩
  · intro c h calls
    obtain ⟨cur, henter⟩ := enter_ofStream_of_ok h
    exact delivered_of_abreast ⟨cur, henter, henter⟩ calls
  · intro e h waiting c later hwaiting hc
    exact calls_of_read_error h hwaiting hc later
  · intro text
    exact ⟨tokenize_eq_readAll text, fun ts => tokenize_eq_ok_iff, fun e => tokenize_eq_error_iff⟩

/-- A word and a mark that are asked for in turn by a reader of items and one of tokens, and
a source whose first read fails. -/
theorem calls_agree_in_turn :
    let source : ByteStream := [.bytes [0x61], .fault (.ofKind .interrupted) 2, .bytes [0x3D]]
    let calls : List Call := [.position, .next?, .prime, .nextToken, .next?]
    let failing : ByteStream := [.fault (.ofKind .timedOut) 1, .bytes [0x61]]
    (Decoder.ofStream source).read.1 = .ok (some 'a') ∧
      delivered ((ofStream source).replies calls) = (ofStream source).nextTokens 3 ∧
      (∃ item, .next (some item) ∈ (ofStream source).replies calls ∧ isLast item = true) ∧
      (Decoder.ofStream failing).read.1 = .error (.fault (.ofKind .timedOut)) ∧
      List.Forall₂ (AtEnd ⟨1, 1⟩) [.prime, .nextToken, .next?]
        (((ofStream failing).call .next?).2.replies [.prime, .nextToken, .next?]) := by
  intro source calls failing
  have hread : (Decoder.ofStream source).read.1 = .ok (some 'a') := rfl
  have hfailing : (Decoder.ofStream failing).read.1 = .error (.fault (.ofKind .timedOut)) := rfl
  have hlength : (delivered ((ofStream source).replies calls)).length = 3 := by decide +kernel
  have hstopped : ((ofStream source).after calls).next?.1 = none :=
    Option.isNone_iff_eq_none.mp (by decide +kernel)
  obtain ⟨hagree, hnone, -, -⟩ := calls_agree source
  obtain ⟨-, -, herror, -⟩ := calls_agree failing
  have hdelivered := (hagree _ hread calls).2
  rw [hlength] at hdelivered
  exact ⟨hread, hdelivered, (hnone calls).mp hstopped, hfailing,
    (herror _ hfailing [.position] .next? _ (by decide) (by decide)).2⟩

end MonkeyTokens.Scanner
