import MonkeyTokens.Log.Pattern.Form

/-!
The values that a field of a log may be compared with: numbers, truth values and
patterns. The words for truth values, and numbers without a plus sign, are patterns
themselves.
-/

namespace MonkeyTokens.Log.Value

/-- Whether an exponent is complete without its letter. -/
def isExponent : List Char → Bool
  | '+' :: cs | '-' :: cs | cs => !cs.isEmpty && cs.all Char.isDigit

/-- Whether a text is a number without its sign: digits, with a point among them or at
either end, and an exponent or none, or a word for infinity or for no number. -/
def isUnsigned (cs : List Char) : Bool :=
  let mantissa := cs.takeWhile fun c => c.isDigit || c == '.'
  if ["inf", "infinity", "nan"].contains (String.ofList (cs.map Char.toLower)) then true
  else
    mantissa.any Char.isDigit && mantissa.count '.' ≤ 1
      && match cs.drop mantissa.length with
        | [] => true
        | e :: exponent => (e == 'e' || e == 'E') && isExponent exponent

/-- Whether a field may be compared with a text. -/
def isReadable (text : String) : Bool :=
  match text.toList with
  | '+' :: cs => isUnsigned cs
  | _ => Pattern.isWellFormed text

end MonkeyTokens.Log.Value
