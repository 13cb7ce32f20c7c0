import MonkeyTokens.Proofs.Output.Formats
import MonkeyTokens.Proofs.Text.Reader

/-!
The lines of displayed tokens can be recovered.

A displayed token is a line of its own, and it is read field by field: the two positions of its
span, the name of its kind, and its literal, which is quoted (`Token.takes_displayed`). This
holds whichever characters of the literal are written by number. So no two tokens are displayed
the same, and the lines of any tokens determine them and their order. The main statement is
`text_recoverable`.
-/

namespace MonkeyTokens

open Text

/-! ### Fields -/

/-- Takes a word of 32 bits in decimal, up to a mark. -/
def wordUpTo (closing : Char) : Reader UInt32 :=
  (upTo closing).filterMap fun digits => do
    let n ← numberOf? 10 digits
    if n < 2 ^ 32 then some (.ofNat n) else none

/-- Takes a displayed position, up to a mark. -/
def Position.reader (closing : Char) : Reader Position := do
  let line ← wordUpTo ':'
  let column ← wordUpTo closing
  return ⟨line, column⟩

/-- Takes a displayed span, up to a mark. -/
def Span.reader (closing : Char) : Reader Span := do
  let first ← Position.reader '-'
  let last ← Position.reader closing
  return ⟨first, last⟩

/-- Takes the name of a kind, up to a mark. -/
def Token.Kind.reader (closing : Char) : Reader Token.Kind :=
  (upTo closing).filterMap fun name => Token.Kind.ofName? (String.ofList name)

/-- Takes a displayed token. -/
def Token.reader : Reader Token := do
  let span ← Span.reader ' '
  let kind ← Token.Kind.reader ' '
  let literal ← quoted? '\x22'
  return ⟨kind, String.ofList literal, span⟩

theorem takes_wordUpTo {closing : Char} (h : ∀ d, Nat.digitChar d ≠ closing) (w : UInt32) :
    Takes (wordUpTo closing) ((Nat.repr w.toNat).toList ++ [closing]) w := by
  rw [Nat.repr_eq_ofList_toDigits, String.toList_ofList]
  apply (takes_upTo (not_mem_toDigits (by decide) h _)).filterMap
  rw [numberOf?_toDigits (by decide) (by decide)]
  simp [w.toNat_lt]

theorem Position.takes_toString {closing : Char} (h : ∀ d, Nat.digitChar d ≠ closing)
    (p : Position) : Takes (Position.reader closing) (p.toString.toList ++ [closing]) p := by
  have hcolon : ∀ d, Nat.digitChar d ≠ ':' := digitChar_ne (by decide) (by decide)
  have htext : p.toString.toList ++ [closing] = (Nat.repr p.line.toNat).toList ++ [':'] ++
      ((Nat.repr p.column.toNat).toList ++ [closing]) := by
    simp [Position.toString]
  rw [htext]
  exact (takes_wordUpTo hcolon p.line).bind ((takes_wordUpTo h p.column).map _)

theorem Span.takes_toString {closing : Char} (h : ∀ d, Nat.digitChar d ≠ closing) (s : Span) :
    Takes (Span.reader closing) (s.toString.toList ++ [closing]) s := by
  have hhyphen : ∀ d, Nat.digitChar d ≠ '-' := digitChar_ne (by decide) (by decide)
  have htext : s.toString.toList ++ [closing] =
      s.first.toString.toList ++ ['-'] ++ (s.last.toString.toList ++ [closing]) := by
    simp [Span.toString]
  rw [htext]
  exact (s.first.takes_toString hhyphen).bind ((s.last.takes_toString h).map _)

theorem Token.Kind.takes_name (k : Token.Kind) :
    Takes (Token.Kind.reader ' ') (k.name.toList ++ [' ']) k := by
  have hspace : ' ' ∉ k.name.toList := by
    cases k with
    | mark m => cases m <;> decide
    | keyword k => cases k <;> decide
    | _ => decide
  apply (takes_upTo hspace).filterMap
  rw [String.ofList_toList, Token.Kind.ofName?_name]

/-- A displayed token is taken for the token, whichever characters are written by number. -/
theorem Token.takes_displayed (hidden : Char → Bool) (t : Token) :
    Takes Token.reader (t.displayed hidden).toList t := by
  have hspace : ∀ d, Nat.digitChar d ≠ ' ' := digitChar_ne (by decide) (by decide)
  have htext : (t.displayed hidden).toList = t.span.toString.toList ++ [' '] ++
      (t.kind.name.toList ++ [' '] ++ quoted '\x22' hidden t.literal.toList) := by
    simp [Token.displayed]
  have hquote : IsQuote '\x22' := .inl rfl
  have hliteral := (takes_quoted hquote hidden t.literal.toList).map
    fun literal => (⟨t.kind, String.ofList literal, t.span⟩ : Token)
  rw [String.ofList_toList] at hliteral
  rw [htext]
  exact (t.span.takes_toString hspace).bind (t.kind.takes_name.bind hliteral)

namespace Token

/-- Reads a line that is a displayed token. -/
def readLine? (line : String) : Option Token := whole? Token.reader line.toList

/-- Reads displayed tokens, each from a line of its own. -/
def readLines? (text : String) : Option (List Token) :=
  (text.toList.splitOn '\n').dropLast.mapM fun line => readLine? (String.ofList line)

/-- The lines of displayed tokens. -/
def displayedLines (hidden : Char → Bool) (ts : List Token) : String :=
  Dump.lines (ts.map (Token.displayed hidden))

section

variable (hidden : Char → Bool)

theorem readLine?_displayed (t : Token) : readLine? (t.displayed hidden) = some t :=
  (t.takes_displayed hidden).whole

theorem hasLines_displayedLines (ts : List Token) :
    Dump.HasLines (displayedLines hidden ts) (ts.map (Token.displayed hidden)) where
  text_eq := rfl
  oneLine := by
    intro l hl
    obtain ⟨t, -, rfl⟩ := List.mem_map.mp hl
    exact (t.clear_displayed hidden).oneLine

theorem splitOn_displayedLines (ts : List Token) :
    (displayedLines hidden ts).toList.splitOn '\n' =
      ts.map (fun t => (t.displayed hidden).toList) ++ [[]] := by
  rw [(hasLines_displayedLines hidden ts).splitOn_eq, List.map_map]
  rfl

theorem readLines?_displayedLines (ts : List Token) :
    readLines? (displayedLines hidden ts) = some ts := by
  rw [readLines?, splitOn_displayedLines, List.dropLast_concat]
  conv_rhs => rw [← List.map_id ts]
  refine Dump.mapM_map_eq_some ?_
  intro t _
  rw [String.ofList_toList]
  exact readLine?_displayed hidden t

end

/-- **The lines of displayed tokens can be recovered.** Whichever characters of a literal are
written by number, besides those that have to be: the line of a token, whatever its kind, its
literal and its span, has no control character and is read back for the token, so that no two
tokens have the same line. The lines of any tokens split at the line feeds into just one for
each token, and are read back for these tokens in their order, so that no two lists of tokens
have the same lines. In the format of text a scan writes just these lines as its result. -/
theorem text_recoverable :
    (∀ hidden : Char → Bool,
      (∀ t, Text.Clear (t.displayed hidden) ∧ readLine? (t.displayed hidden) = some t) ∧
        Function.Injective (Token.displayed hidden) ∧
        (∀ ts, (displayedLines hidden ts).toList.splitOn '\n' =
            ts.map (fun t => (t.displayed hidden).toList) ++ [[]] ∧
          readLines? (displayedLines hidden ts) = some ts) ∧
        Function.Injective (displayedLines hidden)) ∧
      (∀ ts failure, (Dump.Format.text.write (Scanner.itemsFor ts failure)).standard =
        displayedLines isUnprintable ts) ∧
      ∀ source, let items := (Scanner.ofStream source).items
        (Dump.Format.text.write items).standard =
          displayedLines isUnprintable (Scanner.tokensOf items) := by
  have hwrite : ∀ ts failure, (Dump.Format.text.write (Scanner.itemsFor ts failure)).standard =
      displayedLines isUnprintable ts := by
    intro ts failure
    rw [Dump.Format.write_itemsFor]
    rfl
  refine ⟨?_, hwrite, ?_⟩
  · intro hidden
    refine ⟨?_, ?_, ?_, ?_⟩
    · intro t
      exact ⟨t.clear_displayed hidden, readLine?_displayed hidden t⟩
    · exact fun _ _ => Dump.eq_of_read (readLine?_displayed hidden)
    · intro ts
      exact ⟨splitOn_displayedLines hidden ts, readLines?_displayedLines hidden ts⟩
    · exact fun _ _ => Dump.eq_of_read (readLines?_displayedLines hidden)
  · intro source items
    obtain ⟨-, hitems⟩ := Scanner.items_eq_result source
    have heq : items = Scanner.itemsFor (Scanner.tokensOf items) (Scanner.errorOf? items) := hitems
    rw [heq, hwrite, Scanner.tokensOf_itemsFor]

end Token

end MonkeyTokens
