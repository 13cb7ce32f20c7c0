/-!
Sample programs.

Between them the samples use every reserved word, every way to write a numeral and
most of the marks. `Samples.large` repeats them to make programs of any size.
-/

namespace MonkeyTokens.Samples

/-- A single statement. -/
def letStatement : String := "let x = 5;"

/-- The definition and the call of a function. -/
def function : String :=
  "\nlet add = fn(x, y) \x7b\n    x + y;\n\x7d;\nlet result = add(five, ten);\n"

/-- A comparison with two branches. -/
def conditional : String :=
  "\nif (5 < 10) \x7b\n    return true;\n\x7d else \x7b\n    return !false;\n\x7d\n"

/-- A numeral in each notation. -/
def numerals : String := "let n = 1_000 + 0b1010_1010 * 0o755 - 0xDEAD_beef / 0;"

/-- One copy of the samples that a large program is made of. -/
def block : String := function ++ conditional ++ numerals ++ "\n"

/-- A program of the given number of copies of the samples. -/
def large (copies : Nat) : String := String.join (List.replicate copies block)

end MonkeyTokens.Samples
