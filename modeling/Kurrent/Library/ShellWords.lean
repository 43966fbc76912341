import Kurrent.Library.ByteBuffer

namespace Library

/-!
# Words of a shell command

Token recognition and quote removal of a POSIX shell, for commands that are
to be read literally.  The scanner goes through the text byte by byte.  It has
no result when a quotation is not closed, and none when the shell would expand
something: what the command then says depends on more than its text.

A byte of the text ends up in a word, or it is removed.  Counting them tells
that words with quotes in them cannot come from a text that has just enough
bytes to quote them the plain way.
-/

/-- What a byte means to the shell when nothing quotes it. -/
inductive ShellByte
  | blank
  | newline
  | single
  | double
  | backslash
  | hash
  | tilde
  | expansion
  | pattern
  | operator
  | ordinary
  deriving DecidableEq

/-- The meaning of each byte. -/
def shellByte (byte : UInt8) : ShellByte :=
  if byte = 32 ∨ byte = 9 then .blank
  else if byte = 10 then .newline
  else if byte = 39 then .single
  else if byte = 34 then .double
  else if byte = 92 then .backslash
  else if byte = 35 then .hash
  else if byte = 126 then .tilde
  else if byte = 36 ∨ byte = 96 then .expansion
  else if byte = 42 ∨ byte = 63 ∨ byte = 91 then .pattern
  else if byte = 38 ∨ byte = 40 ∨ byte = 41 ∨ byte = 59 ∨ byte = 60 ∨ byte = 62 ∨ byte = 124 then .operator
  else .ordinary

/-- A word after quote removal, or a byte of an operator between words. -/
inductive Token
  | word (text : Bytes)
  | operator (byte : UInt8)
  deriving DecidableEq

/-- Where the scanner is, with the word that it has so far. -/
inductive Scan
  | between
  | comment
  | bare (text : Bytes)
  | single (text : Bytes)
  | double (text : Bytes)
  | escaped (text : Option Bytes)
  | doubleEscaped (text : Bytes)
  deriving DecidableEq

/-- One byte.  A backslash before a newline goes with it, and in double quotes
it stays before a byte that it need not quote. -/
def Scan.step (scan : Scan) (byte : UInt8) : Option (List Token × Scan) :=
  match scan, shellByte byte with
  | .between, .blank => some ([], .between)
  | .between, .newline | .between, .operator => some ([.operator byte], .between)
  | .between, .single => some ([], .single [])
  | .between, .double => some ([], .double [])
  | .between, .backslash => some ([], .escaped none)
  | .between, .hash => some ([], .comment)
  | .between, .tilde | .between, .expansion | .between, .pattern => none
  | .between, .ordinary => some ([], .bare [byte])
  | .comment, .newline => some ([.operator byte], .between)
  | .comment, _ => some ([], .comment)
  | .bare text, .blank => some ([.word text], .between)
  | .bare text, .newline | .bare text, .operator => some ([.word text, .operator byte], .between)
  | .bare text, .single => some ([], .single text)
  | .bare text, .double => some ([], .double text)
  | .bare text, .backslash => some ([], .escaped (some text))
  | .bare _, .expansion | .bare _, .pattern => none
  | .bare text, .hash | .bare text, .tilde | .bare text, .ordinary => some ([], .bare (text ++ [byte]))
  | .single text, .single => some ([], .bare text)
  | .single text, _ => some ([], .single (text ++ [byte]))
  | .double text, .double => some ([], .bare text)
  | .double text, .backslash => some ([], .doubleEscaped text)
  | .double _, .expansion => none
  | .double text, _ => some ([], .double (text ++ [byte]))
  | .escaped none, .newline => some ([], .between)
  | .escaped (some text), .newline => some ([], .bare text)
  | .escaped text, _ => some ([], .bare (text.getD [] ++ [byte]))
  | .doubleEscaped text, .newline => some ([], .double text)
  | .doubleEscaped text, .double | .doubleEscaped text, .backslash | .doubleEscaped text, .expansion =>
      some ([], .double (text ++ [byte]))
  | .doubleEscaped text, _ => some ([], .double (text ++ [92, byte]))

/-- The end of the text. -/
def Scan.finish : Scan -> Option (List Token)
  | .between | .comment => some []
  | .bare text => some [.word text]
  | .single _ | .double _ | .escaped _ | .doubleEscaped _ => none

/-- The tokens of a text, from where the scanner is. -/
def Scan.tokens : Scan -> Bytes -> Option (List Token)
  | scan, [] => scan.finish
  | scan, byte :: rest =>
      match scan.step byte with
      | none => none
      | some (emitted, next) => (next.tokens rest).map fun later => emitted ++ later

/-- The tokens of a command. -/
def shellTokens (command : Bytes) : Option (List Token) :=
  Scan.between.tokens command

/-! ## Counting -/

/-- The word so far. -/
def Scan.held : Scan -> Bytes
  | .between | .comment => []
  | .bare text | .single text | .double text | .doubleEscaped text => text
  | .escaped text => text.getD []

/-- Bytes that have been removed and are no single quotes, as far as they will
be needed. -/
def Scan.credit : Scan -> Nat
  | .between | .comment => 0
  | .bare text | .single text => min (text.count 39) 1
  | .double _ | .escaped _ => 1
  | .doubleEscaped _ => 2

/-- The bytes that a token takes at least: those of a word, and a blank. -/
def Token.size : Token -> Nat
  | .word text => text.length + 1
  | .operator _ => 0

/-- The single quotes in a token. -/
def Token.quotes : Token -> Nat
  | .word text => text.count 39
  | .operator _ => 0

/-- The bytes and the single quotes in all tokens. -/
def tokensSize (tokens : List Token) : Nat :=
  (tokens.map Token.size).sum

def tokensQuotes (tokens : List Token) : Nat :=
  (tokens.map Token.quotes).sum

theorem tokensSize_append (left right : List Token) :
    tokensSize (left ++ right) = tokensSize left + tokensSize right := by
  rw [tokensSize, List.map_append, List.sum_append]
  rfl

theorem tokensQuotes_append (left right : List Token) :
    tokensQuotes (left ++ right) = tokensQuotes left + tokensQuotes right := by
  rw [tokensQuotes, List.map_append, List.sum_append]
  rfl

theorem shellByte_eq_single_iff (byte : UInt8) : shellByte byte = .single ↔ byte = 39 := by
  constructor
  · intro meaning
    by_contra other
    unfold shellByte at meaning
    rw [if_neg other] at meaning
    split_ifs at meaning
  · rintro rfl
    rfl

/-- One if there is a single quote among the tokens. -/
def keptQuote (tokens : List Token) : Nat :=
  min (tokensQuotes tokens) 1

/-- What one byte adds to a word or to the tokens, it takes from the text; and
a quote in a word has cost another byte. -/
theorem step_weight {scan next : Scan} {byte : UInt8} {emitted : List Token}
    (stepped : scan.step byte = some (emitted, next)) :
    next.held.length + next.credit + tokensSize emitted + keptQuote emitted + scan.held.count 39 + [byte].count 39 ≤
      scan.held.length + scan.credit + 1 + tokensQuotes emitted + next.held.count 39 := by
  have quote : [byte].count 39 = if shellByte byte = .single then 1 else 0 := by
    simp only [List.count_singleton, beq_iff_eq, shellByte_eq_single_iff]
  have extended : forall text : Bytes, (text ++ [byte]).count 39 = text.count 39 + [byte].count 39 :=
    fun text => List.count_append
  have kept : forall text : Bytes, (text ++ [92, byte]).count 39 = text.count 39 + [byte].count 39 := by
    intro text
    rw [List.count_append, List.count_cons_of_ne (by decide)]
  unfold Scan.step at stepped
  -- One case for each state and each meaning of the byte.
  cases scan with
  | between | comment =>
      cases meaning : shellByte byte <;> rw [meaning] at stepped quote <;> cases stepped <;>
        simp [Scan.held, Scan.credit, tokensSize, tokensQuotes, keptQuote, Token.size, Token.quotes, quote]
  | escaped text =>
      cases text <;> cases meaning : shellByte byte <;> rw [meaning] at stepped quote <;> cases stepped <;>
        simp [Scan.held, Scan.credit, tokensSize, tokensQuotes, keptQuote, quote, extended]
      all_goals omega
  | bare text | single text | double text | doubleEscaped text =>
      cases meaning : shellByte byte <;> rw [meaning] at stepped quote <;> cases stepped <;>
        simp [Scan.held, Scan.credit, tokensSize, tokensQuotes, keptQuote, Token.size, Token.quotes, quote, extended,
          kept] <;> omega

/-- The tokens of a text take as many bytes as they have, one between two of
them, one for each quote that is removed, and another one if a quote is not. -/
theorem tokens_weight (input : Bytes) : forall {scan : Scan} {tokens : List Token}, scan.tokens input = some tokens ->
    tokensSize tokens + keptQuote tokens + scan.held.count 39 + input.count 39 ≤
      scan.held.length + scan.credit + input.length + tokensQuotes tokens + 1 := by
  induction input with
  | nil =>
      intro scan tokens scanned
      rw [Scan.tokens] at scanned
      cases scan with
      | between | comment =>
          cases scanned
          exact Nat.zero_le _
      | bare text =>
          cases scanned
          simp only [tokensSize, tokensQuotes, keptQuote, Token.size, Token.quotes, Scan.held, Scan.credit,
            List.map_cons, List.map_nil, List.sum_cons, List.sum_nil, List.count_nil, List.length_nil]
          omega
      | single text | double text | escaped text | doubleEscaped text => cases scanned
  | cons byte rest inductionHypothesis =>
      intro scan tokens scanned
      rw [Scan.tokens] at scanned
      cases stepped : scan.step byte with
      | none =>
          rw [stepped] at scanned
          cases scanned
      | some result =>
          rcases result with ⟨emitted, next⟩
          rw [stepped] at scanned
          rcases Option.map_eq_some_iff.mp scanned with ⟨later, continued, rfl⟩
          have taken := step_weight stepped
          have remaining := inductionHypothesis continued
          have kept : keptQuote (emitted ++ later) ≤ keptQuote emitted + keptQuote later := by
            rw [keptQuote, keptQuote, keptQuote, tokensQuotes_append]
            omega
          have count : ([byte] ++ rest).count 39 = [byte].count 39 + rest.count 39 := List.count_append
          rw [List.singleton_append] at count
          rw [tokensSize_append, tokensQuotes_append, count, List.length_cons]
          omega

/-! ## Commands that quote their arguments -/

/-- A word that the shell takes as it is. -/
structure PlainWord (word : Bytes) : Prop where
  filled : word ≠ []
  ordinary : forall byte, byte ∈ word -> shellByte byte = .ordinary

instance (word : Bytes) : Decidable (PlainWord word) :=
  letI : Decidable (forall byte, byte ∈ word -> shellByte byte = .ordinary) := List.decidableBAll _ word
  decidable_of_iff (word ≠ [] ∧ forall byte, byte ∈ word -> shellByte byte = .ordinary)
    ⟨fun both => ⟨both.1, both.2⟩, fun plain => ⟨plain.filled, plain.ordinary⟩⟩

/-- The words that are no commands where a command may stand. -/
def reservedWords : List Bytes :=
  [ascii "!", ascii "\x7b", ascii "\x7d", ascii "case", ascii "do", ascii "done", ascii "elif",
    ascii "else", ascii "esac",
    ascii "fi", ascii "for", ascii "if", ascii "in", ascii "then", ascii "until", ascii "while"]

/-- A plain word that names a program: it assigns nothing and is not reserved. -/
structure ProgramName (word : Bytes) : Prop extends PlainWord word where
  unassigned : (61 : UInt8) ∉ word
  unreserved : word ∉ reservedWords

/-- An argument: a plain word, or a value between single quotes. -/
inductive ShellPart
  | plain (word : Bytes)
  | quoted (value : Bytes)
  deriving DecidableEq

/-- The argument that is meant. -/
def ShellPart.value : ShellPart -> Bytes
  | .plain word => word
  | .quoted value => value

/-- The argument in the command, after a blank. -/
def ShellPart.text : ShellPart -> Bytes
  | .plain word => 32 :: word
  | .quoted value => 32 :: 39 :: (value ++ [39])

/-- The text of a command. -/
def commandText (program : Bytes) (parts : List ShellPart) : Bytes :=
  program ++ parts.flatMap ShellPart.text

/-- The plain words among the arguments are plain. -/
def PlainParts (parts : List ShellPart) : Prop :=
  forall word, ShellPart.plain word ∈ parts -> PlainWord word

theorem count_plain {word : Bytes} (plain : PlainWord word) : word.count 39 = 0 := by
  apply List.count_eq_zero.mpr
  intro member
  exact absurd (plain.ordinary 39 member) (by decide)

theorem tokens_cons {scan next : Scan} {byte : UInt8} (stepped : scan.step byte = some ([], next)) (rest : Bytes) :
    scan.tokens (byte :: rest) = next.tokens rest := by
  rw [Scan.tokens, stepped]
  exact Option.map_id'

theorem tokens_ordinary (word : Bytes) : (forall byte, byte ∈ word -> shellByte byte = .ordinary) ->
    forall text rest, (Scan.bare text).tokens (word ++ rest) = (Scan.bare (text ++ word)).tokens rest := by
  induction word with
  | nil =>
      intro _ text rest
      rw [List.nil_append, List.append_nil]
  | cons byte word inductionHypothesis =>
      intro ordinary text rest
      have stepped : (Scan.bare text).step byte = some ([], .bare (text ++ [byte])) := by
        unfold Scan.step
        rw [ordinary byte List.mem_cons_self]
      have remaining := inductionHypothesis (fun other member => ordinary other (List.mem_cons_of_mem byte member))
        (text ++ [byte]) rest
      rw [List.cons_append, tokens_cons stepped, remaining, List.append_assoc, List.singleton_append]

theorem tokens_plain {word : Bytes} (plain : PlainWord word) (rest : Bytes) :
    Scan.between.tokens (word ++ rest) = (Scan.bare word).tokens rest := by
  cases word with
  | nil => exact absurd rfl plain.filled
  | cons byte word =>
      have stepped : Scan.between.step byte = some ([], .bare [byte]) := by
        unfold Scan.step
        rw [plain.ordinary byte List.mem_cons_self]
      have remaining :=
        tokens_ordinary word (fun other member => plain.ordinary other (List.mem_cons_of_mem byte member))
        [byte] rest
      rw [List.cons_append, tokens_cons stepped, remaining, List.singleton_append]

theorem tokens_single (value : Bytes) : (39 : UInt8) ∉ value ->
    forall text rest, (Scan.single text).tokens (value ++ 39 :: rest) = (Scan.bare (text ++ value)).tokens rest := by
  induction value with
  | nil =>
      intro _ text rest
      have stepped : (Scan.single text).step 39 = some ([], .bare text) := rfl
      rw [List.nil_append, List.append_nil, tokens_cons stepped]
  | cons byte value inductionHypothesis =>
      intro unquoted text rest
      have other : shellByte byte ≠ .single := by
        intro single
        rw [(shellByte_eq_single_iff byte).mp single] at unquoted
        exact unquoted List.mem_cons_self
      have stepped : (Scan.single text).step byte = some ([], .single (text ++ [byte])) := by
        unfold Scan.step
        cases meaning : shellByte byte with
        | single => exact absurd meaning other
        | _ => rfl
      have remaining := inductionHypothesis (fun member => unquoted (List.mem_cons_of_mem byte member))
        (text ++ [byte]) rest
      rw [List.cons_append, tokens_cons stepped, remaining, List.append_assoc, List.singleton_append]

theorem tokens_blank (text rest : Bytes) :
    (Scan.bare text).tokens (32 :: rest) = (Scan.between.tokens rest).map fun later => .word text :: later :=
  rfl

/-- Values without quotes of their own are words of the command. -/
theorem tokens_parts (parts : List ShellPart) : PlainParts parts ->
    (forall value, ShellPart.quoted value ∈ parts -> (39 : UInt8) ∉ value) ->
    forall text, (Scan.bare text).tokens (parts.flatMap ShellPart.text) =
      some (.word text :: (parts.map ShellPart.value).map .word) := by
  induction parts with
  | nil =>
      intro _ _ text
      rfl
  | cons part parts inductionHypothesis =>
      intro plain unquoted text
      have remaining := inductionHypothesis (fun word member => plain word (List.mem_cons_of_mem part member))
        (fun value member => unquoted value (List.mem_cons_of_mem part member))
      cases part with
      | plain word =>
          rw [List.flatMap_cons, ShellPart.text, List.cons_append, tokens_blank,
            tokens_plain (plain word List.mem_cons_self), remaining]
          rfl
      | quoted value =>
          have opened : Scan.between.step 39 = some ([], .single []) := rfl
          have scanned := tokens_single value (unquoted value List.mem_cons_self) [] (parts.flatMap ShellPart.text)
          rw [List.flatMap_cons, ShellPart.text, List.cons_append, tokens_blank, List.cons_append, tokens_cons opened,
            List.append_assoc, List.singleton_append, scanned, List.nil_append, remaining]
          rfl

/-- A word for an argument of the command: it is the argument, or the value
with bytes other than quotes behind it. -/
def ShellPart.MeantBy : ShellPart -> Bytes -> Prop
  | .plain word, meant => meant = word
  | .quoted value, meant => value <+: meant ∧ meant.count 39 = value.count 39

/-- The command has as many bytes as the words need, and no byte to spare. -/
theorem weight_parts {parts : List ShellPart} {words : List Bytes}
    (meant : List.Forall₂ ShellPart.MeantBy parts words) :
    PlainParts parts ->
      (parts.flatMap ShellPart.text).length + tokensQuotes (words.map .word) ≤
          tokensSize (words.map .word) + (parts.flatMap ShellPart.text).count 39 ∧
        (tokensSize (words.map .word) + (parts.flatMap ShellPart.text).count 39 ≤
            (parts.flatMap ShellPart.text).length + tokensQuotes (words.map .word) ->
          words = parts.map ShellPart.value) := by
  induction meant with
  | nil =>
      intro _
      exact ⟨Nat.le_refl _, fun _ => rfl⟩
  | @cons part word parts words first _ inductionHypothesis =>
      intro plain
      rcases inductionHypothesis (fun word member => plain word (List.mem_cons_of_mem part member)) with ⟨less, exactly⟩
      have size : tokensSize ((word :: words).map .word) = word.length + 1 + tokensSize (words.map .word) := rfl
      have quotes : tokensQuotes ((word :: words).map .word) = word.count 39 + tokensQuotes (words.map .word) := rfl
      rw [size, quotes, List.flatMap_cons, List.length_append, List.count_append, List.map_cons]
      cases part with
      | plain own =>
          have same : word = own := first
          subst same
          have none := count_plain (plain word List.mem_cons_self)
          have text : (ShellPart.plain word).text.length = word.length + 1 := rfl
          have count : (ShellPart.plain word).text.count 39 = word.count 39 := List.count_cons_of_ne (by decide)
          rw [text, count, none]
          refine ⟨by omega, ?_⟩
          intro tight
          rw [exactly (by omega)]
          rfl
      | quoted value =>
          rcases first with ⟨start, count⟩
          have longer := start.length_le
          have text : (ShellPart.quoted value).text.length = value.length + 3 := by
            simp only [ShellPart.text, List.length_cons, List.length_append, List.length_nil]
          have quoting : (ShellPart.quoted value).text.count 39 = value.count 39 + 2 := by
            rw [ShellPart.text, List.count_cons_of_ne (by decide), List.count_cons_self, List.count_append]
            rfl
          rw [text, quoting, count]
          refine ⟨by omega, ?_⟩
          intro tight
          rw [exactly (by omega), ← start.eq_of_length (by omega)]
          rfl

/-- A command of plain words and quoted values says what is meant exactly when
the values are meant as they are and contain no quotes. -/
theorem shellTokens_commandText_iff {program : Bytes} (plainProgram : ProgramName program) {parts : List ShellPart}
    (plain : PlainParts parts) {words : List Bytes} (meant : List.Forall₂ ShellPart.MeantBy parts words) :
    shellTokens (commandText program parts) = some ((program :: words).map .word) ↔
      words = parts.map ShellPart.value ∧ forall value, ShellPart.quoted value ∈ parts -> (39 : UInt8) ∉ value := by
  constructor
  · intro scanned
    rcases weight_parts meant plain with ⟨less, exactly⟩
    have weight := tokens_weight _ scanned
    have size : tokensSize ((program :: words).map .word) = program.length + 1 + tokensSize (words.map .word) := rfl
    have quotes : tokensQuotes ((program :: words).map .word) = tokensQuotes (words.map .word) := by
      have first : tokensQuotes ((program :: words).map .word) =
        program.count 39 + tokensQuotes (words.map .word) := rfl
      rw [first, count_plain plainProgram.toPlainWord, Nat.zero_add]
    rw [commandText, List.count_append, List.length_append, count_plain plainProgram.toPlainWord, size, quotes,
      keptQuote, quotes, Scan.held, List.count_nil, List.length_nil, Scan.credit] at weight
    have same := exactly (by omega)
    have none : tokensQuotes (words.map .word) = 0 := by omega
    refine ⟨same, ?_⟩
    intro value member
    have counted : Token.quotes (.word value) ∈ (words.map Token.word).map Token.quotes := by
      rw [same]
      exact List.mem_map_of_mem (List.mem_map_of_mem (List.mem_map_of_mem member))
    exact List.count_eq_zero.mp (List.sum_eq_zero_iff_forall_eq_nat.mp none _ counted)
  · rintro ⟨rfl, unquoted⟩
    rw [shellTokens, commandText, tokens_plain plainProgram.toPlainWord, tokens_parts parts plain unquoted]
    rfl

end Library
