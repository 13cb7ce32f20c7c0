import Mathlib.Data.String.Basic
import MonkeyTokens.Proofs.Lexing.Grammar
import MonkeyTokens.Proofs.Log.Reading

/-!
The settings of a log.

A log is set by nothing, by an empty text, by a level, or by the path of a module with a
level behind an equals sign. Such a `Setting` says which levels of the events it admits. The
text of a setting is read as a filter of no directive or of one (`Setting.ofText?_text`), and
this filter shows an event if and only if the setting admits its level
(`Setting.shows_filter`).
-/

namespace MonkeyTokens.Log

/-! ### Settings -/

/-- The greatest level that is admitted, if any is. -/
abbrev Limit := Option Level

namespace Limit

/-- The word for a limit. -/
def word : Limit → String
  | none => "off"
  | some .error => "error"
  | some .warn => "warn"
  | some .info => "info"
  | some .debug => "debug"
  | some .trace => "trace"

/-- Whether a level is admitted: it is, if it is as severe as the limit at least. -/
def admits : Limit → Level → Bool
  | none, _ => false
  | some limit, level => level.rank ≤ limit.rank

/-- The rank of a limit. -/
def rank : Limit → Nat
  | none => 0
  | some limit => limit.rank

end Limit

/-- Whether the path of a module may hold `c`. -/
def isPathChar (c : Char) : Bool := c.isAlpha || c.isDigit || c == '_' || c == ':'

/-- The path of a module. -/
structure ModulePath where
  name : String
  ne_empty : name ≠ ""
  all_chars : name.toList.all isPathChar = true

/-- What a log is set by. -/
inductive Setting where
  | unset
  | empty
  | ofLevel (limit : Limit)
  /-- A limit for what comes from the modules whose paths begin with this one. -/
  | ofModule (path : ModulePath) (limit : Limit)

namespace Setting

/-- The text of a setting. -/
def text : Setting → Option String
  | .unset => none
  | .empty => some ""
  | .ofLevel limit => some limit.word
  | .ofModule path limit => some (path.name ++ "=" ++ limit.word)

/-- Whether a setting admits the events of a level. What is not set admits errors and
warnings. -/
def admits : Setting → Level → Bool
  | .unset, level => Limit.admits (some .warn) level
  | .empty, _ => false
  | .ofLevel limit, level => limit.admits level
  | .ofModule path limit, level =>
    path.name.toList.isPrefixOf "monkey_lang::lexer".toList && limit.admits level

end Setting

/-! ### Texts without a comma -/

theorem splitOnAux_of_not_mem {before after : List Char} (h : ',' ∉ after) :
    String.splitOnAux (String.ofList (before ++ after)) "," 0 ⟨String.utf8Len before⟩ 0 [] =
      [String.ofList (before ++ after)] := by
  induction after generalizing before with
  | nil =>
    have hend := (String.atEnd_of_valid before []).mpr rfl
    have hall := String.extract_of_valid [] before []
    simp only [List.nil_append, List.append_nil, String.utf8Len_nil, Nat.zero_add] at hall hend ⊢
    rw [String.splitOnAux, if_pos hend]
    exact congrArg (fun text => [text]) hall
  | cons c after ih =>
    obtain ⟨hc, hafter⟩ := not_or.mp (mt List.mem_cons.mpr h)
    have hend := mt (String.atEnd_of_valid before (c :: after)).mp (List.cons_ne_nil c after)
    have hget := String.get_of_valid before (c :: after)
    have hnext : String.Pos.Raw.next _ _ = _ := String.next_of_valid before c after
    have hcomma : String.Pos.Raw.get "," 0 = ',' := by decide +kernel
    have hne : ¬ (c == ',') = true := by simpa using Ne.symm hc
    have hrest := @ih (before ++ [c]) hafter
    simp only [List.append_assoc, List.singleton_append, String.utf8Len_append,
      String.utf8Len_cons, String.utf8Len_nil, Nat.zero_add] at hrest
    rw [String.splitOnAux, if_neg hend, hget, hcomma, List.headD_cons, if_neg hne, ← hrest,
      ← hnext]
    rfl

theorem splitOn_of_not_mem {text : String} (h : ',' ∉ text.toList) :
    text.splitOn "," = [text] := by
  have haux := @splitOnAux_of_not_mem [] _ h
  rw [List.nil_append, String.ofList_toList] at haux
  exact haux

/-- A text without a comma is one directive. -/
theorem Filter.parse_of_not_mem {text : String} (h : ',' ∉ text.toList) (hne : text ≠ "") :
    Filter.parse text = (Directive.parse text).map ([·]) := by
  have hnonempty : text.isEmpty = false := by simpa using hne
  simp only [parse, splitOn_of_not_mem h, List.filter_cons, hnonempty]
  cases hd : Directive.parse text <;> simp [hd] <;> rfl

theorem Filter.parse_empty : Filter.parse "" = .ok [] := by
  have hsplit : "".splitOn "," = [""] := splitOn_of_not_mem (by decide)
  rw [parse, hsplit]
  rfl

namespace Directive

/-- What stands before the first equals sign is the target, and what stands behind it is the
level. -/
theorem parse_of_equals {text : String} {c : Char} {cs level : List Char}
    (hhead : text.toList.dropWhile Text.isBlank = text.toList) (hinitial : isInitial c = true)
    (hcs : ∀ x ∈ c :: cs, (x != '=' && x != '[') = true)
    (h : text.toList = (c :: cs) ++ '=' :: level) :
    parse text = withLevel { target := String.ofList (c :: cs) } text.toList level := by
  have hrest : (c :: (cs ++ '=' :: level)).dropWhile (fun x => x != '=' && x != '[') =
      '=' :: level := by
    rw [← List.cons_append, List.dropWhile_append_of_pos hcs]
    rfl
  have hbracket : c ≠ '[' := by
    rintro rfl
    simp at hcs
  have htarget := @part_eq text.toList hhead [] (c :: cs) ('=' :: level) h
  rw [List.cons_append] at h htarget
  simp only [parse, hhead]
  rw [h] at htarget ⊢
  simp only [hinitial, if_true, hrest, afterTarget, htarget, bind, Except.bind]

/-- A level that is given behind an equals sign is the limit. -/
theorem withLevel_eq (d : Directive) {text before level : List Char} {limit : Nat}
    (hhead : text.dropWhile Text.isBlank = text) (h : text = before ++ level)
    (hne : String.ofList level ≠ "") (hlimit : limitOf? (String.ofList level) = some limit) :
    d.withLevel text level = .ok { d with limit := limit } := by
  rw [withLevel, partFrom_eq hhead h]
  simp only [bind, Except.bind, if_neg hne, hlimit]
  rfl

/-! ### Directives that are settings -/

theorem le_of_isPathChar {c : Char} (h : isPathChar c = true) : c ≤ 'z' := by
  simp only [isPathChar, Bool.or_eq_true, Lexing.isAlpha_iff, Lexing.isDigit_iff, beq_iff_eq] at h
  rcases h with (((⟨-, hupper⟩ | ⟨-, hlower⟩) | ⟨-, hdigit⟩) | rfl) | rfl
  · exact hupper.trans (by decide)
  · exact hlower
  · exact hdigit.trans (by decide)
  · decide
  · decide

/-- A character of a path can begin a directive, is not blank, and is no mark of a directive. -/
theorem of_isPathChar {c : Char} (h : isPathChar c = true) :
    isInitial c = true ∧ Text.isBlank c = false ∧ (c != '=' && c != '[') = true ∧ c ≠ ',' := by
  have hascii : ∀ n < 123, isPathChar (Char.ofNat n) = true → isInitial (Char.ofNat n) = true ∧
      Text.isBlank (Char.ofNat n) = false ∧ (Char.ofNat n != '=' && Char.ofNat n != '[') = true ∧
      Char.ofNat n ≠ ',' := by
    decide +kernel
  have hlt : c.toNat < 123 := Nat.lt_succ_of_le (le_of_isPathChar h)
  have hc := hascii c.toNat hlt
  rw [Char.ofNat_toNat] at hc
  exact hc h

/-- The word of a limit is one directive, and is read for this limit, by itself and behind an
equals sign. -/
theorem limit_word (limit : Limit) : limit.word ≠ "" ∧ ',' ∉ limit.word.toList ∧
    limitOf? limit.word = some limit.rank ∧ parse limit.word = .ok { limit := limit.rank } := by
  cases limit with
  | none => decide +kernel
  | some level => cases level <;> decide +kernel

/-- A path with a limit behind it is read as a directive with this target. -/
theorem parse_path (path : ModulePath) (limit : Limit) :
    parse (path.name ++ "=" ++ limit.word) =
      .ok { target := path.name, limit := limit.rank } := by
  have hne : path.name.toList ≠ [] := by simpa using path.ne_empty
  obtain ⟨c, cs, hcs⟩ := List.exists_cons_of_ne_nil hne
  have hchars : ∀ x ∈ c :: cs, isPathChar x = true := hcs ▸ List.all_eq_true.mp path.all_chars
  have htext : (path.name ++ "=" ++ limit.word).toList =
      (c :: cs) ++ '=' :: limit.word.toList := by
    simp [hcs]
  obtain ⟨hinitial, hblank, -, -⟩ := of_isPathChar (hchars c (List.mem_cons_self ..))
  obtain ⟨hword, -, hlimit, -⟩ := limit_word limit
  have hhead : (path.name ++ "=" ++ limit.word).toList.dropWhile Text.isBlank =
      (path.name ++ "=" ++ limit.word).toList := by
    rw [htext, List.cons_append, List.dropWhile_cons_of_neg (by simp [hblank])]
  have htarget := parse_of_equals hhead hinitial
    (fun x hx => (of_isPathChar (hchars x hx)).2.2.1) htext
  rw [← String.ofList_toList (s := limit.word)] at hword hlimit
  rw [htarget, ← hcs, String.ofList_toList]
  exact withLevel_eq _ hhead (htext.trans (List.append_cons ..)) hword hlimit

end Directive

theorem ModulePath.not_mem_name (path : ModulePath) : ',' ∉ path.name.toList := fun h =>
  (Directive.of_isPathChar (List.all_eq_true.mp path.all_chars ',' h)).2.2.2 rfl

/-! ### Filters that are settings -/

namespace Filter

theorem shows_singleton (d : Directive) (e : Event) :
    Filter.shows [d] e = (d.fits e && decide (e.level.rank ≤ d.limit)) := by
  cases hfits : d.fits e <;> simp [shows, deciding?, better, hfits]

/-- The only directive that a filter has speaks about the events whose target begins with its
own, and admits them up to its limit. -/
theorem shows_target (target : String) (limit : Limit) (e : Event) :
    Filter.shows [{ target := target, limit := limit.rank }] e =
      (target.toList.isPrefixOf "monkey_lang::lexer".toList && limit.admits e.level) := by
  have hlimit : decide (e.level.rank ≤ limit.rank) = limit.admits e.level := by
    cases limit with
    | none => cases e <;> rfl
    | some limit => rfl
  simp [shows_singleton, Directive.fits, Event.target, hlimit]

end Filter

/-- The filter that a setting stands for. -/
def Setting.filter : Setting → Filter
  | .unset => .standard
  | .empty => []
  | .ofLevel limit => [{ limit := limit.rank }]
  | .ofModule path limit => [{ target := path.name, limit := limit.rank }]

/-- The text of a setting is read as the filter that it stands for. -/
theorem Setting.ofText?_text (w : Setting) : Filter.ofText? w.text = some w.filter := by
  cases w with
  | unset => rfl
  | empty => rw [text, Filter.ofText?, Option.map_some, Filter.parse_empty, filter]
  | ofLevel limit =>
    obtain ⟨hword, hcomma, -, hdirective⟩ := Directive.limit_word limit
    rw [text, Filter.ofText?, Option.map_some, Filter.parse_of_not_mem hcomma hword, hdirective]
    rfl
  | ofModule path limit =>
    have hcomma : ',' ∉ (path.name ++ "=" ++ limit.word).toList := by
      simp [path.not_mem_name, (Directive.limit_word limit).2.1]
    rw [text, Filter.ofText?, Option.map_some, Filter.parse_of_not_mem hcomma (by simp),
      Directive.parse_path]
    rfl

/-- **What a setting shows.** An event is shown if and only if its level is admitted. -/
theorem Setting.shows_filter (w : Setting) (e : Event) : w.filter.shows e = w.admits e.level := by
  cases w with
  | unset => exact Filter.shows_target "" (some .warn) e
  | empty => rfl
  | ofLevel limit => simp [filter, admits, Filter.shows_target]
  | ofModule path limit => simp [filter, admits, Filter.shows_target]

end MonkeyTokens.Log
