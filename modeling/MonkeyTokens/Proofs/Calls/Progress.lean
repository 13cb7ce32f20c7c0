import MonkeyTokens.Proofs.Calls.Agreement

/-!
Every scan goes on and comes to an end.

The characters that are decoded from a source bound all that its scanner does. However it is
called, its decoder decodes no more than these characters and their end
(`Decoder.Within`). `Scanner.Passed` says how many of them the scanner has moved on from, and
a call that brings a token moves it on by the blanks before the token and by as many
characters as the literal has (`Scanner.Advances`). The reader of items is brought one item
more than there are characters, at the most, and is told from then on that there are no more
(`replies_replicate_next?`). The main statement is `scan_ends`.
-/

namespace MonkeyTokens

open ByteStream Lexing

/-- The decoder is what at most `n` reads leave of `origin`, the last of them perhaps a look. -/
inductive Decoder.Within (origin : Decoder) (n : Nat) : Decoder → Prop where
  | reads {k : Nat} : k ≤ n → Within origin n (origin.afterReads k)
  | look {k : Nat} : k < n → Within origin n (origin.afterReads k).peek.2

namespace Cursor

variable {origin : Decoder} {before cs text : List Char} {ending : Ending} {cur : Cursor}

theorem Behind.within {i : Nat} (h : Behind origin text i cur) :
    origin.Within (text.length + 1) cur.decoder := by
  rw [h.decoder]
  exact .reads (Nat.succ_le_succ h.le_length)

/-- A failure has decoded no more than the characters before it and what comes in place of the
next one. -/
theorem Fails.within {e : ScanError} (h : Fails origin text ending e cur) :
    origin.Within (text.length + 1) cur.decoder := by
  cases h with
  | unreadable _ hhalted =>
    rw [hhalted.decoder]
    exact .look (Nat.lt_succ_self _)
  | refused htext hhalted =>
    rw [hhalted.decoder, htext]
    exact .look (by simp)

end Cursor

namespace Scanner

open Cursor

/-- The scanner has moved on from just the first `i` characters of the text: it goes on at the
next one, once its first character is read. -/
def Passed (source : ByteStream) (text : List Char) (i : Nat) (s : Scanner) : Prop :=
  ∃ cur, enter s.primed s.cursor = (.ok (), cur) ∧ Behind (.ofStream source) text i cur

/-- The scanner `s` moves on over some blanks and then over the literal of a token, which is not
empty and comes next in the text, and is then the scanner `s'`. -/
def Advances (source : ByteStream) (text : List Char) (t : Token) (s s' : Scanner) : Prop :=
  ∃ i blanks, Passed source text i s ∧ (∀ b ∈ blanks, Blank b) ∧ 0 < t.literal.length ∧
    blanks ++ t.literal.toList <+: text.drop i ∧
    Passed source text (i + blanks.length + t.literal.length) s'

section

variable {source : ByteStream} {text : List Char} {ending : Ending} {s : Scanner} {t : Token}

/-! ### One token -/

/-- Whatever brings an item has asked for a token. -/
theorem nextToken_of_item? {c : Call} {item : Item} (h : (s.call c).1.item? = some item) :
    s.nextToken.1 = item ∧ (s.call c).2.primed = s.nextToken.2.primed ∧
      (s.call c).2.cursor = s.nextToken.2.cursor := by
  cases c with
  | prime => cases h
  | position => cases h
  | nextToken => exact ⟨Option.some.inj h, rfl, rfl⟩
  | next? =>
    cases hfin : s.finished with
    | true =>
      rw [call, next?_of_finished hfin] at h
      cases h
    | false =>
      rw [call, next?_of_unfinished hfin] at h ⊢
      exact ⟨Option.some.inj h, rfl, rfl⟩

/-- A scanner that is under way moves on over the token that it reads. -/
theorem advances_of_nextToken (hsupply : Supplies source.answers text ending)
    (h : Underway source text ending s) (hitem : s.nextToken.1 = .ok t)
    (ht : t.isEndOfFile = false) : Advances source text t s s.nextToken.2 := by
  obtain ⟨log, hnext⟩ := nextToken_eq s
  rw [hnext] at hitem ⊢
  rcases enter_of_underway hsupply h with
    ⟨before, cs, cur, henter, hfaces, rfl⟩ | ⟨e, cur, henter, -⟩
  · rw [bind_of_ok henter] at hitem ⊢
    have hpasses := passes_token hfaces
    have hs : Passed source (before ++ cs) before.length s := ⟨cur, henter, hfaces.behind⟩
    generalize token cur = r at hitem hpasses ⊢
    cases hpasses with
    | @token kind blanks literal rest cur' hblank _ hne _ hfaces' =>
      obtain rfl := Except.ok.inj hitem
      have hliteral : (locate kind literal (before ++ blanks)).literal.length = literal.length :=
        String.length_ofList
      have hbehind := hfaces'.behind
      rw [List.length_append, List.length_append] at hbehind
      refine ⟨before.length, blanks, hs, hblank, ?_, ?_, ?_⟩
      · rw [hliteral]
        exact List.length_pos_iff.mpr hne
      · rw [List.drop_left, locate, String.toList_ofList]
        exact List.prefix_append _ _
      · rw [hliteral]
        exact ⟨cur', rfl, by simpa using hbehind⟩
    | endOfFile =>
      obtain rfl := Except.ok.inj hitem
      cases ht
    | fails => cases hitem
  · rw [bind_of_error henter] at hitem
    cases hitem

theorem advances_of_call (hsupply : Supplies source.answers text ending) (calls : List Call)
    (c : Call) (hitem : (((ofStream source).after calls).call c).1.item? = some (.ok t))
    (ht : t.isEndOfFile = false) :
    Advances source text t ((ofStream source).after calls)
      (((ofStream source).after calls).call c).2 := by
  rcases underway_or_spent hsupply calls with h | h
  · obtain ⟨hnext, hprimed, hcursor⟩ := nextToken_of_item? hitem
    obtain ⟨i, blanks, hs, hblank, hpos, hcomes, hs'⟩ := advances_of_nextToken hsupply h hnext ht
    exact ⟨i, blanks, hs, hblank, hpos, hcomes, by rwa [Passed, hprimed, hcursor]⟩
  · rw [(call_of_spent h c).1.isEndOfFile_eq hitem] at ht
    cases ht

/-- However a scanner is called, no more than the characters of its source and their end are
decoded. -/
theorem within_after (hsupply : Supplies source.answers text ending) (calls : List Call) :
    (Decoder.ofStream source).Within (text.length + 1)
      ((ofStream source).after calls).cursor.decoder := by
  rcases underway_or_failed hsupply calls with h | ⟨-, e, hfails⟩
  · cases h with
    | fresh _ hcursor =>
      rw [hcursor]
      exact .reads (k := 0) (Nat.zero_le _)
    | facing _ hfaces htext =>
      rw [htext]
      exact hfaces.behind.within
  · exact hfails.within

end

/-! ### All the items -/

theorem items_eq_nil_iff {s : Scanner} : s.items = [] ↔ s.finished = true := by
  constructor
  · intro h
    cases hfin : s.finished with
    | true => rfl
    | false =>
      rw [items_eq, next?_of_unfinished hfin] at h
      cases h
  · exact items_of_finished

/-- The reader of items is brought all of them, and nothing however often it asks again. -/
theorem replies_replicate_next? (s : Scanner) (n : Nat) :
    s.replies (List.replicate (s.items.length + n) .next?) =
      s.items.map (fun item => .next (some item)) ++ List.replicate n (.next none) := by
  generalize hitems : s.items = items
  induction items generalizing s with
  | nil =>
    have hfin := items_eq_nil_iff.mp hitems
    rw [List.length_nil, Nat.zero_add, List.map_nil, List.nil_append]
    induction n with
    | zero => rfl
    | succ n ih =>
      have hnone : s.call .next? = (.next none, s) := by rw [call, next?_of_finished hfin]
      rw [List.replicate_succ, List.replicate_succ, replies_cons, hnone, ih]
  | cons item items ih =>
    have hfin : s.finished = false := by
      rw [Bool.eq_false_iff, Ne, ← items_eq_nil_iff, hitems]
      simp
    rw [items_eq, next?_of_unfinished hfin] at hitems
    obtain ⟨rfl, hrest⟩ := List.cons.inj hitems
    rw [List.length_cons, Nat.add_right_comm, List.replicate_succ, replies_cons, call,
      next?_of_unfinished hfin, ih _ hrest]
    rfl

end Scanner

/-- A text has no more pieces than characters. -/
theorem Lexing.Lexes.length_le {cs : List Char} {ps : List Piece} {stop : Stop}
    (h : Lexes cs ps stop) : ps.length ≤ cs.length := by
  induction h with
  | clean => exact Nat.zero_le _
  | refused => exact Nat.zero_le _
  | piece hrun hlex _ ih =>
    have hpos := List.length_pos_iff.mpr hlex.ne_nil
    rw [hrun.split, hlex.split, List.length_append, List.length_append, List.length_cons]
    omega

namespace Scanner

theorem length_tokensFrom (before : List Char) (ps : List Piece) :
    (tokensFrom before ps).length = ps.length := by
  induction ps generalizing before with
  | nil => rfl
  | cons p ps ih => rw [tokensFrom, List.length_cons, List.length_cons, ih]

/-- The items of a source are at most one more than its characters, and only the last of them
is an error or the end of the text. -/
theorem exists_items_eq_append {source : ByteStream} {text : List Char} {ending : Ending}
    (hsupply : Supplies source.answers text ending) : ∃ init last,
      (ofStream source).items = init ++ [last] ∧ init.length ≤ text.length ∧
        (∀ item ∈ init, isLast item = false) ∧ isLast last = true := by
  obtain ⟨ps, stop, hlexes⟩ := exists_lexes text
  refine ⟨_, _, items_ofStream hsupply hlexes, ?_, ?_, ?_⟩
  · rw [List.length_map, length_tokensFrom]
    exact Nat.le_trans (kept_prefix_self ps stop ending).length_le hlexes.length_le
  · intro item hitem
    obtain ⟨t, ht, rfl⟩ := List.mem_map.mp hitem
    exact isEndOfFile_kept hlexes ending t ht
  · rcases lastItem_cases (textOf ps) ending stop with ⟨p, hlast⟩ | ⟨e, hlast⟩
    · rw [hlast]
      rfl
    · rw [hlast]
      rfl

theorem length_items_ofString_le (text : String) :
    (ofString text).items.length ≤ text.length + 1 := by
  have hsupply : Supplies (answers [.bytes (Utf8.encode text.toList)]) text.toList .endOfInput :=
    supplies_encode .usedUp text.toList
  obtain ⟨init, last, hitems, hlength, -⟩ := exists_items_eq_append hsupply
  rw [ofString, hitems, List.length_append]
  exact Nat.succ_le_succ hlength

/-- **Every scan goes on and comes to an end.** From any source some characters are decoded in
all. However its scanner is called, no more than these and their end are decoded, and a call
that brings a token moves the scanner on over blanks and then over as many characters as the
literal of the token has, which is at least one. The reader of items is brought at most one
item more than there are characters, of which only the last is an error or the end of the
text, and nothing from then on. So a text is tokenized after as many items as it has
characters, or one more, and has no more tokens than that. -/
theorem scan_ends :
    (∀ source : ByteStream, (∃ text ending, source.DecodesTo text ending) ∧
      ∀ text ending, source.DecodesTo text ending →
        (∀ calls, let s := (ofStream source).after calls
          (Decoder.ofStream source).Within (text.length + 1) s.cursor.decoder ∧
            ∀ c t, (s.call c).1.item? = some (.ok t) → t.isEndOfFile = false →
              Advances source text t s (s.call c).2) ∧
        ∃ init last, init.length ≤ text.length ∧ (∀ item ∈ init, isLast item = false) ∧
          isLast last = true ∧ ∀ n,
            (ofStream source).replies (List.replicate (init.length + 1 + n) .next?) =
              (init ++ [last]).map (fun item => .next (some item)) ++
                List.replicate n (.next none)) ∧
      ∀ text : String, (ofString text).items.length ≤ text.length + 1 ∧
        ∀ ts, tokenize text = .ok ts → ts.length ≤ text.length + 1 := by
  constructor
  · intro source
    refine ⟨exists_decodesTo source, ?_⟩
    intro text ending hdecodes
    have hsupply := decodesTo_iff.mp hdecodes
    constructor
    · intro calls s
      exact ⟨within_after hsupply calls, fun c t => advances_of_call hsupply calls c⟩
    · obtain ⟨init, last, hitems, hlength, hinit, hlast⟩ := exists_items_eq_append hsupply
      refine ⟨init, last, hlength, hinit, hlast, ?_⟩
      intro n
      have hreplies := replies_replicate_next? (ofStream source) n
      rwa [hitems, List.length_append, List.length_singleton] at hreplies
  · intro text
    have hlength := length_items_ofString_le text
    refine ⟨hlength, ?_⟩
    intro ts hts
    rwa [tokenize_eq_ok_iff.mp hts, List.length_map] at hlength

/-- A word behind a blank, cut in two by an interrupted read, and then a numeral without digits
that the input ends behind, although the source goes on. -/
theorem scan_ends_words :
    let source : ByteStream := [.bytes [0x20, 0x61], .fault (.ofKind .interrupted) 2,
      .bytes [0x62, 0x0A, 0x30, 0x78], .endOfInput, .bytes [0x3D]]
    let s := (ofStream source).after [.prime, .next?]
    source.DecodesTo " ab\n0x".toList .endOfInput ∧
      (s.call .nextToken).1.item? = some (.ok ⟨.integer, "0x", ⟨⟨2, 1⟩, ⟨2, 2⟩⟩⟩) ∧
      Advances source " ab\n0x".toList ⟨.integer, "0x", ⟨⟨2, 1⟩, ⟨2, 2⟩⟩⟩ s
        (s.call .nextToken).2 := by
  intro source s
  have hdecodes : source.DecodesTo " ab\n0x".toList .endOfInput := rfl
  have hitem : (s.call .nextToken).1.item? =
      some (.ok ⟨.integer, "0x", ⟨⟨2, 1⟩, ⟨2, 2⟩⟩⟩) := by decide +kernel
  obtain ⟨hcalls, -⟩ := (scan_ends.1 source).2 _ _ hdecodes
  exact ⟨hdecodes, hitem, (hcalls [.prime, .next?]).2 .nextToken _ hitem rfl⟩

end Scanner

end MonkeyTokens
