import MonkeyTokens.Cursor.Progress
import MonkeyTokens.Proofs.Lexing.Grammar
import MonkeyTokens.Proofs.Lexing.Place
import MonkeyTokens.Proofs.Stream.Supply

/-!
What a cursor has before it.

`Cursor.Faces` ties a cursor to a text: the characters `before` have been passed, the
characters `cs` are still to come, the first of them held, and then the source comes to
its end. It ties the cursor to its source as well, because the decoder is the one that was
there at the `origin`, after as many reads as the cursor has seen characters.
`Cursor.Lands` says how a step arrives at such a place: with its result, or, where nothing
is to come but a failure, with that failure, reported just there, and the cursor is then
`Halted`. A step that passes over the characters of a text lands behind them
(`lands_advance`, `lands_run`), and so does a sequence of such steps (`Lands.bind`).
-/

namespace MonkeyTokens.Cursor

open ByteStream Lexing

variable {α β : Type}

/-- The cursor has passed `before` and has `cs` to come, and it is as far as the decoder
`origin` has been read. A failure that is to come is met only by moving on. -/
inductive Faces (origin : Decoder) (before : List Char) (ending : Ending) :
    List Char → Cursor → Prop where
  | character {s : ByteStream} {c : Char} {cs : List Char} :
      origin.afterReads (before.length + 1) = ⟨s, none⟩ → Supplies s.answers cs ending →
      Faces origin before ending (c :: cs) ⟨⟨s, none⟩, some c, place before, place (before ++ [c])⟩
  | endOfInput {s : ByteStream} :
      origin.afterReads (before.length + 1) = ⟨s, none⟩ → ending = .endOfInput →
      Faces origin before ending [] ⟨⟨s, none⟩, none, place before, place before⟩

/-- A failure at the character behind `before` has left nothing under the cursor, and the
cursor on the last character before it. The decoder has been asked for just one more. -/
structure Halted (origin : Decoder) (before : List Char) (cur : Cursor) : Prop where
  held : cur.held = none
  position : cur.position = place before.dropLast
  decoder : cur.decoder = (origin.afterReads before.length).peek.2

/-- A step has the result `a` and leaves the cursor behind `before`, or fails there. -/
inductive Lands (a : α) (origin : Decoder) (before : List Char) (ending : Ending) :
    List Char → Except ScanError α × Cursor → Prop where
  | faces {cs : List Char} {cur : Cursor} : Faces origin before ending cs cur →
      Lands a origin before ending cs (.ok a, cur)
  | fails {e : ReadError} {cur : Cursor} : ending = .failure e → Halted origin before cur →
      Lands a origin before ending [] (.error ⟨.unreadable e, place before⟩, cur)

section

variable {origin : Decoder} {before cs rest text : List Char} {ending : Ending} {cur : Cursor}
  {c : Char}

theorem Faces.position_eq (h : Faces origin before ending cs cur) :
    cur.position = place before := by
  cases h <;> rfl

theorem Faces.held_eq (h : Faces origin before ending cs cur) : cur.held = cs.head? := by
  cases h <;> rfl

theorem Faces.ahead_eq (h : Faces origin before ending cs cur) :
    cur.ahead = place (before ++ cs.take 1) := by
  cases h with
  | character => rfl
  | endOfInput => rw [List.take_nil, List.append_nil]

theorem Faces.decoder_eq (h : Faces origin before ending cs cur) :
    cur.decoder = origin.afterReads (before.length + 1) := by
  cases h with
  | character hd => exact hd.symm
  | endOfInput hd => exact hd.symm

theorem Faces.slot_eq (h : Faces origin before ending cs cur) : cur.decoder.slot = none := by
  cases h <;> rfl

/-- Two steps in sequence land where the second does, and a failure of the first is a
failure there. -/
theorem Lands.bind {x : Step α} {f : α → Step β} {a : α} {b : β}
    (hx : Lands a origin before ending (text ++ rest) (x cur))
    (hf : ∀ cur', Faces origin before ending (text ++ rest) cur' →
      Lands b origin (before ++ text) ending rest (f a cur')) :
    Lands b origin (before ++ text) ending rest ((x >>= f) cur) := by
  generalize hr : x cur = r at hx
  generalize hcs : text ++ rest = cs at hx hf
  cases hx with
  | faces h =>
    rw [bind_of_ok hr]
    exact hf _ h
  | fails he h =>
    obtain ⟨rfl, rfl⟩ := List.append_eq_nil_iff.mp hcs
    rw [bind_of_error hr, List.append_nil]
    exact .fails he h

/-- What follows a step and moves no further lands where the step does. -/
theorem Lands.bind_here {x : Step α} {f : α → Step β} {a : α} {b : β}
    (hx : Lands a origin before ending rest (x cur))
    (hf : ∀ cur', Faces origin before ending rest cur' → f a cur' = (.ok b, cur')) :
    Lands b origin before ending rest ((x >>= f) cur) := by
  have h : Lands b origin (before ++ []) ending rest ((x >>= f) cur) := by
    apply Lands.bind hx
    intro cur' hcur'
    rw [List.append_nil, hf cur' hcur']
    exact .faces hcur'
  rwa [List.append_nil] at h

/-! ### Moving on -/

/-- Reading on arrives at what the source supplies. -/
theorem lands_advance_of_supplies {s : ByteStream} {p : Position}
    (horigin : origin.afterReads before.length = ⟨s, none⟩) (h : Supplies s.answers cs ending)
    (hp : p = place before.dropLast) (held : Option Char) :
    Lands () origin before ending cs (advance ⟨⟨s, none⟩, held, p, place before⟩) := by
  have hnext := Decoder.afterReads_succ before.length origin
  rw [horigin] at hnext
  cases h with
  | endOfInput hd =>
    obtain ⟨s', hread, -⟩ := Decoder.read_of_decodes (d := ⟨s, none⟩) rfl hd
    simp only [advance_apply, hread]
    rw [hread] at hnext
    exact .faces (.endOfInput hnext rfl)
  | failure hd =>
    obtain ⟨s', hread, -⟩ := Decoder.read_of_decodes (d := ⟨s, none⟩) rfl hd
    simp only [advance_apply, hread]
    refine .fails rfl ⟨rfl, hp, ?_⟩
    rw [horigin, Decoder.peek_of_read_error hread]
  | @character _ rest c cs _ hd hrest =>
    obtain ⟨s', hread, rfl⟩ := Decoder.read_of_decodes (d := ⟨s, none⟩) rfl hd
    simp only [advance_apply, hread, Option.elim, ← place_append_singleton]
    rw [hread] at hnext
    exact .faces (.character hnext hrest)

theorem lands_advance (h : Faces origin before ending (c :: cs) cur) :
    Lands () origin (before ++ [c]) ending cs (advance cur) := by
  cases h with
  | character horigin hs =>
    apply lands_advance_of_supplies _ hs
    · rw [List.dropLast_concat]
    · rwa [List.length_append, List.length_singleton]

/-! ### Runs -/

theorem takeWhile_of_held {ε : Type} [Counting ε] {p : Char → Bool} (hheld : cur.held = some c)
    (hc : p c) (taken : String) :
    (takeWhile p taken : StepIn ε String) cur = match advance cur with
      | (.ok (), cur') => takeWhile p (taken.push c) cur'
      | (.error e, cur') => (.error e, cur') := by
  rw [takeWhile]
  split
  · simp_all
  · rename_i d hd
    obtain rfl : c = d := by simpa [hheld] using hd
    rw [if_pos hc]
    split <;> rename_i hadv <;> simp only [hadv]

theorem takeWhile_of_stop {ε : Type} [Counting ε] {p : Char → Bool}
    (h : ∀ c, cur.held = some c → p c = false) (taken : String) :
    (takeWhile p taken : StepIn ε String) cur = (.ok taken, cur) := by
  rw [takeWhile]
  split
  · rfl
  · rename_i d hd
    rw [if_neg (by simp [h d hd])]

theorem lands_takeWhile {p : Char → Bool} {P : Char → Prop} (hp : ∀ c, p c = true ↔ P c)
    {run : List Char} (hrun : MaximalRun P cs run rest) (h : Faces origin before ending cs cur)
    (taken : String) :
    Lands (taken ++ String.ofList run) origin (before ++ run) ending rest
      (takeWhile p taken cur) := by
  obtain ⟨rfl, hall, hstops⟩ := hrun
  induction run generalizing before cur taken with
  | nil =>
    rw [List.nil_append] at h
    have hstop : takeWhile p taken cur = (.ok taken, cur) := by
      apply takeWhile_of_stop
      intro c hc
      rw [h.held_eq] at hc
      rw [Bool.eq_false_iff, Ne, hp]
      exact hstops c hc
    rw [hstop]
    simpa using Lands.faces (a := taken) h
  | cons c run ih =>
    have hc : p c = true := (hp c).mpr (hall c (List.mem_cons_self ..))
    have hpush : taken ++ String.ofList (c :: run) = taken.push c ++ String.ofList run := by
      simp [String.ext_iff]
    have hsplit : before ++ c :: run = before ++ [c] ++ run := by simp
    rw [takeWhile_of_held h.held_eq hc, hpush, hsplit]
    have hadv : Lands () origin (before ++ [c]) ending (run ++ rest) (advance cur) :=
      lands_advance h
    generalize advance cur = r at hadv
    generalize hcs : run ++ rest = cs at hadv
    cases hadv with
    | faces h' =>
      subst hcs
      apply ih _ _ h'
      intro d hd
      exact hall d (List.mem_cons_of_mem _ hd)
    | fails he hhalted =>
      obtain ⟨rfl, rfl⟩ := List.append_eq_nil_iff.mp hcs
      rw [List.append_nil]
      exact .fails he hhalted

/-- A maximal run is taken as a whole. -/
theorem lands_run {p : Char → Bool} {P : Char → Prop} (hp : ∀ c, p c = true ↔ P c)
    {taken : List Char} (hrun : MaximalRun P cs taken rest)
    (h : Faces origin before ending cs cur) :
    Lands (String.ofList taken) origin (before ++ taken) ending rest (run p cur) := by
  simpa [run] using lands_takeWhile hp hrun h ""

end

end MonkeyTokens.Cursor
