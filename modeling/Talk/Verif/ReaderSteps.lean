import Talk.Lib.Incremental
import Talk.Verif.Tokenizer

/-!
# The steps of the command reader

The reader of a connection goes through its bytes in steps that do not depend on how these arrive: a
byte of a literal, the end of a literal, the line of a marker, the last line of a command, a line
that does not parse. A feed makes as many steps as it can, up to a marker or a line that does not
parse.
-/

namespace Talk.Verif.ReaderSteps

open Imap Incremental Text
open Pipelining (roundsFor)
open Tokenizer (nextLine_length)

/-! ## Steps -/

/-- What a reader comes upon. -/
inductive Event where
  /-- A command. -/
  | command (cmd : ParsedCommand)
  /-- The marker of a literal. -/
  | marker
  /-- A line that does not parse. -/
  | failure
  deriving DecidableEq

/-- More bytes arrive. -/
def more (reader : CommandReader) (data : List UInt8) : CommandReader :=
  { reader with buf := reader.buf ++ data }

/-- One step, where there is one. -/
def move (reader : CommandReader) : Option (List Event × CommandReader) :=
  match reader.literalRemaining with
  | some 0 => some ([], { reader with literalRemaining := none })
  | some (count + 1) =>
    match reader.buf with
    | [] => none
    | byte :: rest => some ([], ⟨rest, reader.pendingLine ++ [byte], some count⟩)
  | none =>
    match nextLine reader.buf with
    | none => none
    | some (line, after) =>
      if line ≠ [] ∧ line.getLast? ≠ some 13 then none
      else
        match literalCount line.dropLast with
        | some (count, marker) =>
          some ([.marker], ⟨after, reader.pendingLine ++
            line.dropLast.take (line.dropLast.length - marker), some count⟩)
        | none =>
          match parseLine (reader.pendingLine ++ line.dropLast) with
          | .diverges => none
          | .failed _ => some ([.failure], ⟨after, [], none⟩)
          | .ok cmd => some ([.command cmd], ⟨after, [], none⟩)

/-- The next line has no CR at its end, or is not left by the tokenizer. -/
def Broken (reader : CommandReader) : Prop :=
  reader.literalRemaining = none ∧ ∃ line after, nextLine reader.buf = some (line, after) ∧
    (line ≠ [] ∧ line.getLast? ≠ some 13 ∨
      literalCount line.dropLast = none ∧
        parseLine (reader.pendingLine ++ line.dropLast) = .diverges)

/-- A line of the buffer is what stands before its first LF. -/
theorem nextLine_eq_some_iff {buf line after : List UInt8} :
    nextLine buf = some (line, after) ↔ buf = line ++ 10 :: after ∧ 10 ∉ line := by
  constructor
  · intro taken
    unfold nextLine at taken
    by_cases some : 10 ∈ buf
    · rw [if_pos some] at taken
      obtain ⟨rfl, rfl⟩ := Prod.mk.inj (Option.some.inj taken)
      have free : 10 ∉ buf.takeWhile (· != 10) := fun member => by
        have apart := List.all_eq_true.mp List.all_takeWhile 10 member
        simp at apart
      refine ⟨?_, free⟩
      have cut := List.takeWhile_append_dropWhile (p := (· != 10)) (l := buf)
      cases rest : buf.dropWhile (· != 10) with
      | nil =>
        rw [rest, List.append_nil] at cut
        rw [cut] at free
        exact absurd some free
      | cons first later =>
        have stop := List.head?_dropWhile_not (· != 10) buf
        rw [rest] at stop
        have same : first = 10 := by simpa using stop
        rw [rest, same] at cut
        exact cut.symm
    · rw [if_neg some] at taken
      cases taken
  · rintro ⟨rfl, free⟩
    have kept : ∀ byte ∈ line, (byte != 10) = true := fun byte member =>
      bne_iff_ne.mpr fun same => free (same ▸ member)
    rw [nextLine, if_pos (by simp), List.takeWhile_append_of_pos kept,
      List.dropWhile_append_of_pos kept]
    simp

/-- The next line stays the same with more bytes. -/
theorem nextLine_more {buf line after : List UInt8} (taken : nextLine buf = some (line, after))
    (data : List UInt8) : nextLine (buf ++ data) = some (line, after ++ data) := by
  obtain ⟨rfl, free⟩ := nextLine_eq_some_iff.mp taken
  exact nextLine_eq_some_iff.mpr ⟨by simp, free⟩

/-- A line, up to its LF, has its end: CR, or nothing before the LF. -/
structure Ended (line : List UInt8) : Prop where
  /-- It is one line. -/
  oneLine : 10 ∉ line
  /-- It ends with CR, where it is not empty. -/
  ending : ¬(line ≠ [] ∧ line.getLast? ≠ some 13)

/-- Such a line is the next one of a buffer that starts with it. -/
theorem Ended.nextLine {line : List UInt8} (ended : Ended line) (rest : List UInt8) :
    nextLine (line ++ 10 :: rest) = some (line, rest) :=
  nextLine_eq_some_iff.mpr ⟨rfl, ended.oneLine⟩

/-- The steps, one by one. -/
inductive Moves : CommandReader → List Event → CommandReader → Prop where
  /-- A byte of a literal. -/
  | byte (byte : UInt8) (rest pending : List UInt8) (count : Nat) :
    Moves ⟨byte :: rest, pending, some (count + 1)⟩ [] ⟨rest, pending ++ [byte], some count⟩
  /-- The end of a literal. -/
  | finish (buf pending : List UInt8) : Moves ⟨buf, pending, some 0⟩ [] ⟨buf, pending, none⟩
  /-- The line of a marker. -/
  | marker {line : List UInt8} (ended : Ended line) {count marker : Nat}
    (marked : literalCount line.dropLast = some (count, marker)) (rest pending : List UInt8) :
    Moves ⟨line ++ 10 :: rest, pending, none⟩ [.marker]
      ⟨rest, pending ++ line.dropLast.take (line.dropLast.length - marker), some count⟩
  /-- The last line of a command. -/
  | command {line pending : List UInt8} (ended : Ended line)
    (last : literalCount line.dropLast = none) {cmd : ParsedCommand}
    (parsed : parseLine (pending ++ line.dropLast) = .ok cmd) (rest : List UInt8) :
    Moves ⟨line ++ 10 :: rest, pending, none⟩ [.command cmd] ⟨rest, [], none⟩
  /-- A line that does not parse. -/
  | failure {line pending : List UInt8} (ended : Ended line)
    (last : literalCount line.dropLast = none) {error : ParseError}
    (failed : parseLine (pending ++ line.dropLast) = .failed error) (rest : List UInt8) :
    Moves ⟨line ++ 10 :: rest, pending, none⟩ [.failure] ⟨rest, [], none⟩

/-- The reader moves exactly as its steps say. -/
theorem move_iff {reader after : CommandReader} {now : List Event} :
    move reader = some (now, after) ↔ Moves reader now after := by
  constructor
  · intro goes
    obtain ⟨buf, pending, literal⟩ := reader
    unfold move at goes
    dsimp only at goes
    cases literal with
    | some count =>
      cases count with
      | zero =>
        obtain ⟨rfl, rfl⟩ := Prod.mk.inj (Option.some.inj goes)
        exact .finish buf pending
      | succ count =>
        cases buf with
        | nil => cases goes
        | cons byte rest =>
          obtain ⟨rfl, rfl⟩ := Prod.mk.inj (Option.some.inj goes)
          exact .byte byte rest pending count
    | none =>
      cases taken : nextLine buf with
      | none =>
        rw [taken] at goes
        cases goes
      | some parts =>
        obtain ⟨line, rest⟩ := parts
        obtain ⟨rfl, oneLine⟩ := nextLine_eq_some_iff.mp taken
        rw [taken] at goes
        dsimp only at goes
        by_cases ending : line ≠ [] ∧ line.getLast? ≠ some 13
        · rw [if_pos ending] at goes
          cases goes
        · have ended : Ended line := ⟨oneLine, ending⟩
          rw [if_neg ending] at goes
          cases marked : literalCount line.dropLast with
          | some found =>
            obtain ⟨count, marker⟩ := found
            rw [marked] at goes
            obtain ⟨rfl, rfl⟩ := Prod.mk.inj (Option.some.inj goes)
            exact .marker ended marked rest pending
          | none =>
            rw [marked] at goes
            dsimp only at goes
            cases parsed : parseLine (pending ++ line.dropLast) with
            | diverges =>
              rw [parsed] at goes
              cases goes
            | failed error =>
              rw [parsed] at goes
              obtain ⟨rfl, rfl⟩ := Prod.mk.inj (Option.some.inj goes)
              exact .failure ended marked parsed rest
            | ok cmd =>
              rw [parsed] at goes
              obtain ⟨rfl, rfl⟩ := Prod.mk.inj (Option.some.inj goes)
              exact .command ended marked parsed rest
  · intro moves
    cases moves with
    | byte => rfl
    | finish => rfl
    | marker ended marked rest pending =>
      simp only [move, ended.nextLine, if_neg ended.ending, marked]
    | command ended last parsed rest =>
      simp only [move, ended.nextLine, if_neg ended.ending, last, parsed]
    | failure ended last failed rest =>
      simp only [move, ended.nextLine, if_neg ended.ending, last, failed]

/-- A step is the same with more bytes to come. -/
theorem Moves.more {reader after : CommandReader} {now : List Event}
    (moves : Moves reader now after) (data : List UInt8) :
    Moves (more reader data) now (more after data) := by
  have behind (line rest pending : List UInt8) :
      ReaderSteps.more ⟨line ++ 10 :: rest, pending, none⟩ data =
        ⟨line ++ 10 :: (rest ++ data), pending, none⟩ := by
    simp [ReaderSteps.more]
  cases moves with
  | byte byte rest pending count => exact .byte byte (rest ++ data) pending count
  | finish buf pending => exact .finish (buf ++ data) pending
  | marker ended marked rest pending =>
    rw [behind]
    exact .marker ended marked (rest ++ data) pending
  | command ended last parsed rest =>
    rw [behind]
    exact .command ended last parsed (rest ++ data)
  | failure ended last failed rest =>
    rw [behind]
    exact .failure ended last failed (rest ++ data)

/-- The steps do not depend on bytes to come. -/
theorem growing : Growing move more where
  nil reader := by simp [more]
  append reader first second := by simp [more]
  stable reader now after data goes := move_iff.mpr ((move_iff.mp goes).more data)

/-- Each step uses a byte or ends a literal. -/
theorem move_decreases (reader : CommandReader) (now : List Event) (after : CommandReader)
    (goes : move reader = some (now, after)) : roundsFor after < roundsFor reader := by
  cases move_iff.mp goes with
  | byte | finish => simp [roundsFor]
  | marker | command | failure =>
    simp [roundsFor]
    omega

/-- A broken line stays broken. -/
theorem Broken.more {reader : CommandReader} (broken : Broken reader) (data : List UInt8) :
    Broken (more reader data) := by
  obtain ⟨literal, line, after, taken, why⟩ := broken
  exact ⟨literal, line, after ++ data, nextLine_more taken data, why⟩

/-- Before a broken line no step is made. -/
theorem Broken.rests {reader : CommandReader} (broken : Broken reader) : Rests move reader := by
  obtain ⟨literal, line, after, taken, why⟩ := broken
  unfold Rests move
  rw [literal, taken]
  dsimp only
  rcases why with ending | ⟨last, stray⟩
  · rw [if_pos ending]
  · rw [last, stray]
    exact ite_self none

/-! ## Feeds -/

/-- What a feed comes to: no line is left, or it stops at a marker, at a line that does not parse or
at a broken one. -/
inductive Feeds (reader : CommandReader) : Fed → Prop where
  /-- No line is left, and no byte of a literal that is still to come. -/
  | whole {cmds : List ParsedCommand} {last : CommandReader}
    (reads : Reads move reader (cmds.map .command) last) (rests : Rests move last)
    (sound : ¬Broken last) : Feeds reader (.ok cmds, last)
  /-- It stops at a marker. -/
  | marker {cmds : List ParsedCommand} {last : CommandReader}
    (reads : Reads move reader (cmds.map .command ++ [.marker]) last)
    (waits : last.needsContinuation = true) : Feeds reader (.ok cmds, last)
  /-- It stops at a line that does not parse. -/
  | failure {cmds : List ParsedCommand} {error : ParseError} {last : CommandReader}
    (reads : Reads move reader (cmds.map .command ++ [.failure]) last)
    (other : error ≠ .unterminated) : Feeds reader (.failed error, last)
  /-- It stops at a broken line. -/
  | broken {cmds : List ParsedCommand} {stuck last : CommandReader}
    {outcome : Parse (List ParsedCommand)}
    (reads : Reads move reader (cmds.map .command) stuck) (broken : Broken stuck)
    (either : outcome = .diverges ∨ outcome = .failed .unterminated)
    (less : roundsFor last < roundsFor stuck) : Feeds reader (outcome, last)

/-- A feed after a step without an event. -/
theorem Feeds.before {reader after : CommandReader} {fed : Fed} (reads : Reads move reader [] after)
    (feeds : Feeds after fed) : Feeds reader fed := by
  cases feeds with
  | whole rest rests sound => exact .whole (reads.trans rest) rests sound
  | marker rest waits => exact .marker (reads.trans rest) waits
  | failure rest other => exact .failure (reads.trans rest) other
  | broken rest broken either less => exact .broken (reads.trans rest) broken either less

/-- A feed goes on after a command. -/
theorem Feeds.push {reader after : CommandReader} {cmd : ParsedCommand} {fed : Fed}
    (reads : Reads move reader [.command cmd] after) (feeds : Feeds after fed) :
    Feeds reader (fed.push cmd) := by
  cases feeds with
  | @whole cmds last rest rests sound =>
    have onward : Reads move reader ((cmd :: cmds).map .command) last := reads.trans rest
    exact .whole onward rests sound
  | @marker cmds last rest waits =>
    have onward : Reads move reader ((cmd :: cmds).map .command ++ [.marker]) last :=
      reads.trans rest
    exact .marker onward waits
  | @failure cmds error last rest other =>
    have onward : Reads move reader ((cmd :: cmds).map .command ++ [.failure]) last :=
      reads.trans rest
    exact .failure onward other
  | @broken cmds stuck last outcome rest broken either less =>
    have onward : Reads move reader ((cmd :: cmds).map .command) stuck := reads.trans rest
    refine .broken onward broken ?_ less
    rcases either with rfl | rfl
    · exact .inl rfl
    · exact .inr rfl

/-- The bytes of a literal are read. -/
theorem reads_literal (content rest pending : List UInt8) (count : Nat) :
    Reads move ⟨content ++ rest, pending, some (content.length + count)⟩ []
      ⟨rest, pending ++ content, some count⟩ := by
  induction content generalizing pending with
  | nil =>
    rw [List.append_nil, List.length_nil, Nat.zero_add]
    exact .refl _
  | cons byte content ih =>
    have first : Moves ⟨byte :: (content ++ rest), pending, some (content.length + count + 1)⟩ []
        ⟨content ++ rest, pending ++ [byte], some (content.length + count)⟩ := .byte ..
    have later := ih (pending ++ [byte])
    rw [List.append_assoc, List.singleton_append] at later
    rw [List.length_cons, Nat.add_right_comm]
    exact .next (move_iff.mpr first) later

/-- The tokenizer fails only where a quoted string or a list is not closed. -/
theorem tokens_failed {steps : Nat} {chars : List Char} {error : ParseError}
    (failed : tokens steps chars = .failed error) : error = .unclosedQuote := by
  have later {token : String} {outcome : Parse (List String)}
      (failed : outcome.map (token :: ·) = .failed error) : outcome = .failed error := by
    cases outcome with
    | diverges => cases failed
    | failed other => exact failed
    | ok => cases failed
  induction steps generalizing chars with
  | zero => cases failed
  | succ steps ih =>
    cases chars with
    | nil => cases failed
    | cons c rest =>
      rw [tokens] at failed
      by_cases blank : isWhitespace c = true
      · rw [if_pos blank] at failed
        exact ih failed
      · rw [if_neg blank] at failed
        by_cases opens : c = '('
        · rw [if_pos opens] at failed
          cases closed : closingParen 1 rest with
          | none =>
            rw [closed] at failed
            exact (Parse.failed.inj failed).symm
          | some parts =>
            rw [closed] at failed
            exact ih (later failed)
        · rw [if_neg opens] at failed
          by_cases quotes : c = '"'
          · rw [if_pos quotes] at failed
            cases closed : closingQuote rest with
            | none =>
              rw [closed] at failed
              exact (Parse.failed.inj failed).symm
            | some parts =>
              rw [closed] at failed
              exact ih (later failed)
          · rw [if_neg quotes] at failed
            by_cases closes : c = ')'
            · rw [if_pos closes] at failed
              cases failed
            · rw [if_neg closes] at failed
              exact ih (later failed)

/-- A line does not parse because it has no command, or because of a quoted string or a list. -/
theorem parseLine_failed {line : List UInt8} {error : ParseError}
    (failed : parseLine line = .failed error) : error ≠ .unterminated := by
  unfold parseLine at failed
  cases read : tokenize line with
  | diverges =>
    rw [read] at failed
    cases failed
  | failed other =>
    rw [read] at failed
    have quote := tokens_failed read
    have same : other = error := Parse.failed.inj failed
    rw [← same, quote]
    decide
  | ok list =>
    rw [read] at failed
    cases list with
    | nil =>
      have same : ParseError.invalidCommand = error := Parse.failed.inj failed
      rw [← same]
      decide
    | cons first rest =>
      cases rest with
      | nil => cases failed
      | cons => cases failed

/-- With enough rounds, the loop makes as many steps as it can. -/
theorem feedLoop_feeds (rounds : Nat) (reader : CommandReader)
    (enough : roundsFor reader < rounds) :
    Feeds reader (feedLoop rounds reader) := by
  induction rounds generalizing reader with
  | zero => exact absurd enough (Nat.not_lt_zero _)
  | succ rounds ih =>
    obtain ⟨buf, pending, literal⟩ := reader
    rw [feedLoop]
    dsimp only
    cases literal with
    | some count =>
      dsimp only
      by_cases short : (buf.take count).length < count
      · have least : buf.length < count := by
          rw [List.length_take] at short
          omega
        rw [if_pos short, List.take_of_length_le least.le, List.drop_of_length_le least.le]
        have reads := reads_literal buf [] pending (count - buf.length)
        rw [List.append_nil, Nat.add_sub_cancel' least.le] at reads
        obtain ⟨left, positive⟩ : ∃ left, count - buf.length = left + 1 :=
          ⟨count - buf.length - 1, by omega⟩
        rw [positive] at reads ⊢
        exact @Feeds.whole _ [] _ reads rfl fun broken => by cases broken.1
      · rw [if_neg short]
        have exact' : (buf.take count).length = count := by
          rw [List.length_take] at short ⊢
          omega
        have reads := reads_literal (buf.take count) (buf.drop count) pending 0
        rw [List.take_append_drop, exact', Nat.add_zero] at reads
        have closes := reads.trans (.single (move_iff.mpr (.finish _ _)))
        refine Feeds.before closes (ih _ ?_)
        simp [roundsFor] at enough ⊢
        omega
    | none =>
      dsimp only
      cases taken : nextLine buf with
      | none =>
        have stays : move ⟨buf, pending, none⟩ = none := by simp only [move, taken]
        refine @Feeds.whole _ [] _ (.refl _) stays ?_
        rintro ⟨-, line, after, also, -⟩
        rw [taken] at also
        cases also
      | some parts =>
        obtain ⟨line, rest⟩ := parts
        have shorter := nextLine_length taken
        dsimp only
        by_cases ending : line ≠ [] ∧ line.getLast? ≠ some 13
        · rw [if_pos ending]
          refine @Feeds.broken _ [] _ _ _ (.refl _) ⟨rfl, line, rest, taken, .inl ending⟩
            (.inr rfl) ?_
          simp [roundsFor]
          omega
        · rw [if_neg ending]
          obtain ⟨rfl, oneLine⟩ := nextLine_eq_some_iff.mp taken
          have ended : Ended line := ⟨oneLine, ending⟩
          have fewer : roundsFor ⟨rest, [], none⟩ <
              roundsFor ⟨line ++ 10 :: rest, pending, none⟩ := by
            simp [roundsFor]
            omega
          cases marked : literalCount line.dropLast with
          | some found =>
            obtain ⟨count, marker⟩ := found
            have moves := Moves.marker ended marked rest pending
            exact @Feeds.marker _ [] _ (.single (move_iff.mpr moves)) rfl
          | none =>
            dsimp only
            cases parsed : parseLine (pending ++ line.dropLast) with
            | diverges =>
              exact @Feeds.broken _ [] _ _ _ (.refl _)
                ⟨rfl, line, rest, taken, .inr ⟨marked, parsed⟩⟩ (.inl rfl) fewer
            | failed error =>
              have moves := Moves.failure ended marked parsed rest
              exact @Feeds.failure _ [] _ _ (.single (move_iff.mpr moves)) (parseLine_failed parsed)
            | ok cmd =>
              have moves := Moves.command ended marked parsed rest
              exact .push (.single (move_iff.mpr moves)) (ih _ (by omega))

/-- What a feed returns, and the reader it leaves, are what it comes to. -/
theorem feed_feeds (reader : CommandReader) (data : List UInt8) :
    Feeds (more reader data) (reader.feed data) := by
  refine feedLoop_feeds _ _ ?_
  unfold roundsFor more
  dsimp only
  split <;> omega

/-- Where the steps come upon commands only, one feed returns them. -/
theorem feed_of_reads {reader last : CommandReader} {data : List UInt8} {cmds : List ParsedCommand}
    (reads : Reads move (more reader data) (cmds.map .command) last) (rests : Rests move last)
    (sound : ¬Broken last) : reader.feed data = (.ok cmds, last) := by
  have feeds := feed_feeds reader data
  generalize reader.feed data = fed at feeds
  cases feeds with
  | @whole others end' also still =>
    obtain ⟨same, rfl⟩ := also.unique still reads rests
    have inner := List.map_injective_iff.mpr (fun _ _ same => Event.command.inj same) same
    rw [inner]
  | marker also =>
    obtain ⟨after, same, -⟩ := reads.residue rests also
    have member : Event.marker ∈ cmds.map Event.command := by
      rw [same]
      simp
    simp at member
  | failure also =>
    obtain ⟨after, same, -⟩ := reads.residue rests also
    have member : Event.failure ∈ cmds.map Event.command := by
      rw [same]
      simp
    simp at member
  | broken also broken =>
    obtain ⟨after, -, onward⟩ := reads.residue rests also
    exact absurd ((onward.of_rests broken.rests).2 ▸ broken) sound

/-- An empty reader has no step to make. -/
theorem rests_empty : Rests move {} ∧ ¬Broken {} := by
  refine ⟨rfl, ?_⟩
  rintro ⟨-, line, after, taken, -⟩
  cases taken

end Talk.Verif.ReaderSteps
