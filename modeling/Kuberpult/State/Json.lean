import Kuberpult.Error

/-! Go's `encoding/json` as the configuration readers call it. Its scanner (scanner.go) reads
one character at a time and keeps a stack of the containers it is in; it is ported here
step function by step function, with the nesting limit. Two readers drive it.
`json.NewDecoder(file).Decode(&v)` (`Decode`) scans until the first value ends and
decodes that value; what follows is not read. `json.Unmarshal(data, &v)` (`Unmarshal`)
checks first that the whole input is one value with only whitespace around it
(`checkValid`), as `json.Valid` does. Decoding a well-formed value into a Go type depends
on that type's fields, which live outside this repository; it is the parameter
`fromJSON`, given the text of the value. -/
namespace Kuberpult.Json

/-- Results are compared in tests and counterexamples. -/
instance Except.decidableEq {ε α : Type} [DecidableEq ε] [DecidableEq α] : DecidableEq (Except ε α)
  | .ok a, .ok b => decidable_of_iff (a = b) (by simp)
  | .error a, .error b => decidable_of_iff (a = b) (by simp)
  | .ok _, .error _ => isFalse (by simp)
  | .error _, .ok _ => isFalse (by simp)

/-- Go's `isSpace`: the whitespace between tokens. -/
def isSpace (c : Char) : Bool := c = ' ' || c = '\t' || c = '\r' || c = '\n'

/-- The step function the scanner calls on the next character, one constructor for each of
Go's `state...` functions. -/
inductive Step where
  | beginValueOrEmpty | beginValue | beginStringOrEmpty | beginString | endValue | endTop
  | inString | inStringEsc | inStringEscU | inStringEscU1 | inStringEscU12 | inStringEscU123
  | neg | one | zero | dot | dot0 | e | eSign | e0
  | t | tr | tru | f | fa | fal | fals | n | nu | nul
  | error
  deriving DecidableEq, Repr

/-- A container being parsed: Go's `parseObjectKey`, `parseObjectValue`, `parseArrayValue`. -/
inductive ParseState where
  | objectKey | objectValue | arrayValue
  deriving DecidableEq, Repr

/-- What a step reports, Go's scan codes. -/
inductive ScanCode where
  | scanContinue | scanBeginLiteral | scanBeginObject | scanObjectKey | scanObjectValue
  | scanEndObject | scanBeginArray | scanArrayValue | scanEndArray | scanSkipSpace
  | scanEnd | scanError
  deriving DecidableEq, Repr

/-- Go's `scanner`: the next step function, whether a top-level value has ended, the
containers being parsed (innermost first), and the message of the syntax error once there
is one. -/
structure Scanner where
  step : Step
  endTop : Bool
  parseState : List ParseState
  err : Option String
  deriving DecidableEq, Repr

/-- A scanner at the start of the input, after Go's `scanner.reset()`. -/
def Scanner.init : Scanner := ⟨.beginValue, false, [], none⟩

/-- Go's `maxNestingDepth`. -/
def maxNestingDepth : Nat := 10000

/-- Go's `scanner.error(c, context)`. The character and the offset the message also names
are left out. -/
def Scanner.error (s : Scanner) (context : String) : ScanCode × Scanner :=
  (.scanError, { s with step := .error, err := some ("invalid character " ++ context) })

/-- Go's `scanner.pushParseState`: enter a container, unless that nests too deep. -/
def Scanner.pushParseState (s : Scanner) (newParseState : ParseState) (successState : ScanCode) :
    ScanCode × Scanner :=
  let s := { s with parseState := newParseState :: s.parseState }
  if s.parseState.length ≤ maxNestingDepth then (successState, s) else s.error "exceeded max depth"

/-- Go's `scanner.popParseState`: leave a container; leaving the outermost ends the
top-level value. -/
def Scanner.popParseState (s : Scanner) : Scanner :=
  match s.parseState.tail with
  | [] => { s with parseState := [], step := .endTop, endTop := true }
  | rest => { s with parseState := rest, step := .endValue }

section Steps

variable (s : Scanner) (c : Char)

/-- Go's `stateEndTop`: only whitespace may follow the top-level value; anything else is an
error reported on the next call. -/
def stateEndTop : ScanCode × Scanner :=
  if isSpace c then (.scanEnd, s) else (.scanEnd, (s.error "after top-level value").2)

/-- Go's `stateEndValue`: after a value, what the container around it allows. -/
def stateEndValue : ScanCode × Scanner :=
  match s.parseState with
  | [] => stateEndTop { s with step := .endTop, endTop := true } c
  | ps :: rest =>
    if isSpace c then (.scanSkipSpace, { s with step := .endValue })
    else match ps with
      | .objectKey =>
        if c = ':' then (.scanObjectKey, { s with parseState := .objectValue :: rest, step := .beginValue })
        else s.error "after object key"
      | .objectValue =>
        if c = ',' then (.scanObjectValue, { s with parseState := .objectKey :: rest, step := .beginString })
        else if c = '}' then (.scanEndObject, s.popParseState)
        else s.error "after object key:value pair"
      | .arrayValue =>
        if c = ',' then (.scanArrayValue, { s with step := .beginValue })
        else if c = ']' then (.scanEndArray, s.popParseState)
        else s.error "after array element"

/-- Go's `stateBeginValue`: the first character of a value. -/
def stateBeginValue : ScanCode × Scanner :=
  if isSpace c then (.scanSkipSpace, s)
  else match c with
    | '{' => Scanner.pushParseState { s with step := .beginStringOrEmpty } .objectKey .scanBeginObject
    | '[' => Scanner.pushParseState { s with step := .beginValueOrEmpty } .arrayValue .scanBeginArray
    | '"' => (.scanBeginLiteral, { s with step := .inString })
    | '-' => (.scanBeginLiteral, { s with step := .neg })
    | '0' => (.scanBeginLiteral, { s with step := .zero })
    | 't' => (.scanBeginLiteral, { s with step := .t })
    | 'f' => (.scanBeginLiteral, { s with step := .f })
    | 'n' => (.scanBeginLiteral, { s with step := .n })
    | c =>
      if '1' ≤ c ∧ c ≤ '9' then (.scanBeginLiteral, { s with step := .one })
      else s.error "looking for beginning of value"

/-- Go's `stateBeginValueOrEmpty`: after `[`. -/
def stateBeginValueOrEmpty : ScanCode × Scanner :=
  if isSpace c then (.scanSkipSpace, s)
  else if c = ']' then stateEndValue s c
  else stateBeginValue s c

/-- Go's `stateBeginString`: an object key. -/
def stateBeginString : ScanCode × Scanner :=
  if isSpace c then (.scanSkipSpace, s)
  else if c = '"' then (.scanBeginLiteral, { s with step := .inString })
  else s.error "looking for beginning of object key string"

/-- Go's `stateBeginStringOrEmpty`: after `{`. -/
def stateBeginStringOrEmpty : ScanCode × Scanner :=
  if isSpace c then (.scanSkipSpace, s)
  else if c = '}' then stateEndValue { s with parseState := .objectValue :: s.parseState.tail } c
  else stateBeginString s c

/-- Go's `stateInString`: inside a string, where control characters are not allowed. -/
def stateInString : ScanCode × Scanner :=
  if c = '"' then (.scanContinue, { s with step := .endValue })
  else if c = '\\' then (.scanContinue, { s with step := .inStringEsc })
  else if c.toNat < 0x20 then s.error "in string literal"
  else (.scanContinue, s)

/-- Go's `stateInStringEsc`: after a backslash. -/
def stateInStringEsc : ScanCode × Scanner :=
  if c ∈ ['b', 'f', 'n', 'r', 't', '\\', '/', '"'] then (.scanContinue, { s with step := .inString })
  else if c = 'u' then (.scanContinue, { s with step := .inStringEscU })
  else s.error "in string escape code"

/-- A hexadecimal digit of a `\u` escape, then `next`: Go's `stateInStringEscU`, `...U1`,
`...U12` and `...U123`. -/
def stateInStringEscHex (next : Step) : ScanCode × Scanner :=
  if c.isDigit ∨ ('a' ≤ c ∧ c ≤ 'f') ∨ ('A' ≤ c ∧ c ≤ 'F') then (.scanContinue, { s with step := next })
  else s.error "in \\u hexadecimal character escape"

/-- Go's `stateNeg`: after the minus sign of a number. -/
def stateNeg : ScanCode × Scanner :=
  if c = '0' then (.scanContinue, { s with step := .zero })
  else if '1' ≤ c ∧ c ≤ '9' then (.scanContinue, { s with step := .one })
  else s.error "in numeric literal"

/-- Go's `state0`: after the integer part of a number. -/
def state0 : ScanCode × Scanner :=
  if c = '.' then (.scanContinue, { s with step := .dot })
  else if c = 'e' ∨ c = 'E' then (.scanContinue, { s with step := .e })
  else stateEndValue s c

/-- Go's `state1`: inside a non-zero integer part. -/
def state1 : ScanCode × Scanner :=
  if c.isDigit then (.scanContinue, { s with step := .one }) else state0 s c

/-- Go's `stateDot`: after the decimal point. -/
def stateDot : ScanCode × Scanner :=
  if c.isDigit then (.scanContinue, { s with step := .dot0 })
  else s.error "after decimal point in numeric literal"

/-- Go's `stateDot0`: inside the fraction. -/
def stateDot0 : ScanCode × Scanner :=
  if c.isDigit then (.scanContinue, s)
  else if c = 'e' ∨ c = 'E' then (.scanContinue, { s with step := .e })
  else stateEndValue s c

/-- Go's `stateESign`: the first digit of the exponent. -/
def stateESign : ScanCode × Scanner :=
  if c.isDigit then (.scanContinue, { s with step := .e0 })
  else s.error "in exponent of numeric literal"

/-- Go's `stateE`: after the `e` of the exponent. -/
def stateE : ScanCode × Scanner :=
  if c = '+' ∨ c = '-' then (.scanContinue, { s with step := .eSign }) else stateESign s c

/-- Go's `stateE0`: inside the exponent. -/
def stateE0 : ScanCode × Scanner :=
  if c.isDigit then (.scanContinue, s) else stateEndValue s c

/-- One more letter of `true`, `false` or `null`: Go's `stateT`, `stateTr`, and so on. -/
def stateLiteral (expected : Char) (next : Step) (context : String) : ScanCode × Scanner :=
  if c = expected then (.scanContinue, { s with step := next }) else s.error context

end Steps

/-- Go's `scanner.step(s, c)`. -/
def Scanner.scan (s : Scanner) (c : Char) : ScanCode × Scanner :=
  match s.step with
  | .beginValueOrEmpty => stateBeginValueOrEmpty s c
  | .beginValue => stateBeginValue s c
  | .beginStringOrEmpty => stateBeginStringOrEmpty s c
  | .beginString => stateBeginString s c
  | .endValue => stateEndValue s c
  | .endTop => stateEndTop s c
  | .inString => stateInString s c
  | .inStringEsc => stateInStringEsc s c
  | .inStringEscU => stateInStringEscHex s c .inStringEscU1
  | .inStringEscU1 => stateInStringEscHex s c .inStringEscU12
  | .inStringEscU12 => stateInStringEscHex s c .inStringEscU123
  | .inStringEscU123 => stateInStringEscHex s c .inString
  | .neg => stateNeg s c
  | .one => state1 s c
  | .zero => state0 s c
  | .dot => stateDot s c
  | .dot0 => stateDot0 s c
  | .e => stateE s c
  | .eSign => stateESign s c
  | .e0 => stateE0 s c
  | .t => stateLiteral s c 'r' .tr "in literal true (expecting 'r')"
  | .tr => stateLiteral s c 'u' .tru "in literal true (expecting 'u')"
  | .tru => stateLiteral s c 'e' .endValue "in literal true (expecting 'e')"
  | .f => stateLiteral s c 'a' .fa "in literal false (expecting 'a')"
  | .fa => stateLiteral s c 'l' .fal "in literal false (expecting 'l')"
  | .fal => stateLiteral s c 's' .fals "in literal false (expecting 's')"
  | .fals => stateLiteral s c 'e' .endValue "in literal false (expecting 'e')"
  | .n => stateLiteral s c 'u' .nu "in literal null (expecting 'u')"
  | .nu => stateLiteral s c 'l' .nul "in literal null (expecting 'l')"
  | .nul => stateLiteral s c 'l' .endValue "in literal null (expecting 'l')"
  | .error => (.scanError, s)

/-! ## The two readers -/

/-- Go's `io.EOF`, which `Decode` returns for an input of whitespace only. -/
def eofError : Error := .text "EOF"

/-- Go's `io.ErrUnexpectedEOF`, for an input that ends inside its first value. -/
def unexpectedEOFError : Error := .text "unexpected EOF"

/-- The message of `scanner.eof()` at the end of an input that ends inside its value. -/
def unexpectedEnd : String := "unexpected end of JSON input"

/-- The error of decoding a well-formed value into a type it does not fit, Go's
`*UnmarshalTypeError`; the value's kind and the type are left out. -/
def unmarshalTypeError : Error := .text "json: cannot unmarshal"

/-- The loop of Go's `Decoder.readValue` over the whole input, `n` characters in: the
length of the first value, leading whitespace included. The scanner reports the end of a
number or literal one character late (`scanEnd`), and the end of a top-level array or
object on its closing bracket. At the end of the input a space is scanned to end a number;
an input that ends inside its value is `io.ErrUnexpectedEOF`, one of whitespace only
`io.EOF`. -/
def readValueFrom (input : List Char) (s : Scanner) (n : Nat) : List Char → Except Error Nat
  | [] =>
    if (s.scan ' ').1 = .scanEnd then .ok n
    else if input.all isSpace then .error eofError
    else .error unexpectedEOFError
  | c :: rest =>
    match s.scan c with
    | (.scanEnd, _) => .ok n
    | (.scanEndObject, s) | (.scanEndArray, s) =>
      if (stateEndValue s ' ').1 = .scanEnd then .ok (n + 1) else readValueFrom input s (n + 1) rest
    | (.scanError, s) => .error (.text (s.err.getD unexpectedEnd))
    | (_, s) => readValueFrom input s (n + 1) rest

/-- Go's `Decoder.readValue` on a fresh decoder over `input`. -/
def readValue (input : List Char) : Except Error Nat :=
  readValueFrom input .init 0 input

/-- Go's `json.NewDecoder(r).Decode(&v)` on a reader holding `content`, for a target whose
decoding `fromJSON` is: the first value, after leading whitespace, decoded. -/
def Decode {α : Type} (fromJSON : List Char → Option α) (content : String) : Except Error α := do
  let n ← readValue content.data
  match fromJSON (content.data.take n) with
  | some v => .ok v
  | none => .error unmarshalTypeError

/-- Go's `scanner.eof()`: whether the input may end here, and the message if not. -/
def Scanner.eof (s : Scanner) : Option String :=
  match s.err with
  | some err => some err
  | none =>
    if s.endTop then none
    else
      let s := (s.scan ' ').2
      if s.endTop then none else some (s.err.getD unexpectedEnd)

/-- The loop of Go's `checkValid(data, scan)`: every character is scanned, and the end
of the input must end the value. -/
def checkValidFrom (s : Scanner) : List Char → Option String
  | [] => s.eof
  | c :: rest =>
    match s.scan c with
    | (.scanError, s) => some (s.err.getD unexpectedEnd)
    | (_, s) => checkValidFrom s rest

/-- Go's `checkValid(data, scan)` with a reset scanner: `none` when `data` is one JSON
value with only whitespace around it, else the message of its syntax error. -/
def checkValid (data : List Char) : Option String := checkValidFrom .init data

/-- Go's `json.Valid(data)`. -/
def Valid (data : String) : Bool := (checkValid data.data).isNone

/-- Go's `json.Unmarshal(data, &v)` for a target whose decoding `fromJSON` is. -/
def Unmarshal {α : Type} (fromJSON : List Char → Option α) (data : String) : Except Error α :=
  match checkValid data.data with
  | some err => .error (.text err)
  | none =>
    match fromJSON data.data with
    | some v => .ok v
    | none => .error unmarshalTypeError

/-! ## What the readers return -/

/-- The decoder fails only with errors of its own text, none of them a sentinel. -/
theorem readValueFrom_error (input : List Char) {s : Scanner} {n : Nat} {rest : List Char} {err : Error}
    (failed : readValueFrom input s n rest = .error err) : ∃ message, err = .text message := by
  induction rest generalizing s n with
  | nil =>
    unfold readValueFrom at failed
    split at failed
    · cases failed
    · split at failed <;> exact ⟨_, (Except.error.inj failed).symm⟩
  | cons c rest ih =>
    unfold readValueFrom at failed
    split at failed
    case h_1 => cases failed
    case h_4 => exact ⟨_, (Except.error.inj failed).symm⟩
    case h_5 => exact ih failed
    all_goals
      split at failed
      · cases failed
      · exact ih failed

/-- `Decode` succeeds exactly when the first value of the input, after leading whitespace,
is well-formed and decodes; what follows it plays no part. -/
theorem Decode_ok_iff {α : Type} (fromJSON : List Char → Option α) (content : String) (v : α) :
    Decode fromJSON content = .ok v ↔
      ∃ n, readValue content.data = .ok n ∧ fromJSON (content.data.take n) = some v := by
  unfold Decode
  cases readValue content.data with
  | error err => simp [bind, Except.bind]
  | ok n =>
    simp only [bind, Except.bind, Except.ok.injEq, exists_eq_left']
    split <;> simp_all

/-- Every error of `Decode` is a text of the JSON package, none of the sentinels. -/
theorem Decode_error {α : Type} {fromJSON : List Char → Option α} {content : String} {err : Error}
    (failed : Decode fromJSON content = .error err) : ∃ message, err = .text message := by
  unfold Decode at failed
  cases read : readValue content.data with
  | error readErr => simp only [read, bind, Except.bind, Except.error.injEq] at failed; exact failed ▸ readValueFrom_error _ read
  | ok n =>
    simp only [read, bind, Except.bind] at failed
    split at failed <;> cases failed
    exact ⟨_, rfl⟩

/-- `Unmarshal` succeeds exactly when the input is one well-formed value with only whitespace
around it, and the value decodes. -/
theorem Unmarshal_ok_iff {α : Type} (fromJSON : List Char → Option α) (data : String) (v : α) :
    Unmarshal fromJSON data = .ok v ↔ Valid data ∧ fromJSON data.data = some v := by
  unfold Unmarshal Valid
  cases checkValid data.data with
  | some err => simp
  | none => cases decoded : fromJSON data.data <;> simp

/-- Every error of `Unmarshal` is a text of the JSON package, none of the sentinels. -/
theorem Unmarshal_error {α : Type} {fromJSON : List Char → Option α} {data : String} {err : Error}
    (failed : Unmarshal fromJSON data = .error err) : ∃ message, err = .text message := by
  unfold Unmarshal at failed
  split at failed
  · exact ⟨_, (Except.error.inj failed).symm⟩
  · split at failed <;> cases failed
    exact ⟨_, rfl⟩

/-! ## The two readers agree

`Unmarshal` accepts the syntax of exactly the inputs whose first value the decoder reads
and after which only whitespace follows (`Valid_iff_readValue`). Both readers drive the
same scanner; `Scanner.scan_outcome` says once what one step of it can do before the
first value has ended, and the loops of both readers follow from it. -/

/-- A scanner inside its first value: no error yet, and the top-level value not ended. -/
structure Scanner.Live (s : Scanner) : Prop where
  noErr : s.err = none
  notEnded : s.endTop = false
  stepping : s.step ≠ .endTop

/-- What one step of a live scanner can do: fail; end the top-level value before the
character, which must then be whitespace for the input to stay valid; close the outermost
container on the character, or an inner one; or go on, live. -/
inductive Outcome (c : Char) : ScanCode × Scanner → Prop
  | failed (s : Scanner) (notEnded : s.endTop = false) : Outcome c (.scanError, s)
  | ended (s : Scanner) (space : isSpace c = true) (ended : s.endTop = true) (atEnd : s.step = .endTop)
      (noErr : s.err = none) : Outcome c (.scanEnd, s)
  | endedBadly (s : Scanner) (notSpace : isSpace c = false) (ended : s.endTop = true) (failed : s.step = .error)
      (err : s.err.isSome) : Outcome c (.scanEnd, s)
  | closedTop (code : ScanCode) (s : Scanner) (bracket : c = '}' ∨ c = ']') (ended : s.endTop = true)
      (atEnd : s.step = .endTop) (noErr : s.err = none) (empty : s.parseState = []) :
      code = .scanEndObject ∨ code = .scanEndArray → Outcome c (code, s)
  | closedInner (code : ScanCode) (s : Scanner) (bracket : c = '}' ∨ c = ']') (live : s.Live)
      (inside : s.parseState ≠ []) : code = .scanEndObject ∨ code = .scanEndArray → Outcome c (code, s)
  | continued (code : ScanCode) (s : Scanner) (live : s.Live)
      (going : code ≠ .scanError ∧ code ≠ .scanEnd ∧ code ≠ .scanEndObject ∧ code ≠ .scanEndArray) :
      Outcome c (code, s)

section Live

variable {s : Scanner} {c : Char}

theorem Outcome.error (live : s.Live) (context : String) : Outcome c (s.error context) :=
  .failed _ live.notEnded

theorem Outcome.step (live : s.Live) {code : ScanCode} {next : Step} (notEnd : next ≠ .endTop)
    (going : code ≠ .scanError ∧ code ≠ .scanEnd ∧ code ≠ .scanEndObject ∧ code ≠ .scanEndArray) :
    Outcome c (code, { s with step := next }) :=
  .continued _ _ ⟨live.noErr, live.notEnded, notEnd⟩ going

theorem Outcome.popParseState (live : s.Live) {code : ScanCode} (bracket : c = '}' ∨ c = ']')
    (closing : code = .scanEndObject ∨ code = .scanEndArray) : Outcome c (code, s.popParseState) := by
  unfold Scanner.popParseState
  split
  · exact .closedTop _ _ bracket rfl rfl live.noErr rfl closing
  · rename_i rest notNil
    exact .closedInner _ _ bracket ⟨live.noErr, live.notEnded, nofun⟩ (fun empty => notNil empty) closing

theorem stateEndValue_outcome (live : s.Live) : Outcome c (stateEndValue s c) := by
  unfold stateEndValue
  split
  · unfold stateEndTop
    split
    · exact .ended _ ‹_› rfl rfl live.noErr
    · exact .endedBadly _ (Bool.eq_false_iff.2 ‹_›) rfl rfl rfl
  · split
    · exact .continued _ _ ⟨live.noErr, live.notEnded, nofun⟩ (by decide)
    · split
      all_goals repeat' split
      all_goals first
        | exact Outcome.error live _
        | exact .continued _ _ ⟨live.noErr, live.notEnded, nofun⟩ (by decide)
        | exact Outcome.popParseState live (by simp [*]) (by decide)

theorem pushParseState_outcome (live : s.Live) {next : Step} (notEnd : next ≠ .endTop) (p : ParseState)
    {code : ScanCode} (going : code ≠ .scanError ∧ code ≠ .scanEnd ∧ code ≠ .scanEndObject ∧ code ≠ .scanEndArray) :
    Outcome c (Scanner.pushParseState { s with step := next } p code) := by
  dsimp only [Scanner.pushParseState]
  split
  · exact .continued _ _ ⟨live.noErr, live.notEnded, notEnd⟩ going
  · exact .failed _ live.notEnded

theorem stateBeginValue_outcome (live : s.Live) : Outcome c (stateBeginValue s c) := by
  unfold stateBeginValue
  split
  · exact .continued _ _ live (by decide)
  · split
    all_goals first
      | exact pushParseState_outcome live (by simp) _ (by decide)
      | exact Outcome.step live (by simp) (by decide)
      | (split
         · exact Outcome.step live (by simp) (by decide)
         · exact Outcome.error live _)

theorem stateLiteral_outcome (live : s.Live) {next : Step} (notEnd : next ≠ .endTop) (expected : Char)
    (context : String) : Outcome c (stateLiteral s c expected next context) := by
  unfold stateLiteral
  split
  · exact Outcome.step live notEnd (by decide)
  · exact Outcome.error live _

theorem stateInStringEscHex_outcome (live : s.Live) {next : Step} (notEnd : next ≠ .endTop) :
    Outcome c (stateInStringEscHex s c next) := by
  unfold stateInStringEscHex
  split
  · exact Outcome.step live notEnd (by decide)
  · exact Outcome.error live _

theorem Scanner.scan_outcome (live : s.Live) : Outcome c (s.scan c) := by
  unfold Scanner.scan
  cases stepping : s.step
  case endTop => exact (live.stepping stepping).elim
  case error => exact .failed _ live.notEnded
  case beginValue => exact stateBeginValue_outcome live
  case endValue => exact stateEndValue_outcome live
  case t | tr | tru | f | fa | fal | fals | n | nu | nul => exact stateLiteral_outcome live (by decide) _ _
  case inStringEscU | inStringEscU1 | inStringEscU12 | inStringEscU123 =>
    exact stateInStringEscHex_outcome live (by decide)
  all_goals
    simp only [stateBeginValueOrEmpty, stateBeginStringOrEmpty, stateBeginString, stateInString, stateInStringEsc,
      stateNeg, state0, state1, stateDot, stateDot0, stateE, stateESign, stateE0]
    repeat' split
  all_goals first
    | exact Outcome.error live _
    | exact .continued _ _ live (by decide)
    | exact Outcome.step live (by decide) (by decide)
    | exact stateEndValue_outcome live
    | exact stateBeginValue_outcome live
    | exact stateEndValue_outcome ⟨live.noErr, live.notEnded, live.stepping⟩

end Live

/-- After a failure every further character and the end of the input fail again. -/
theorem checkValidFrom_failed {s : Scanner} (failed : s.step = .error) (err : s.err.isSome) (rest : List Char) :
    (checkValidFrom s rest).isSome := by
  cases rest with
  | nil =>
    obtain ⟨message, failedWith⟩ := Option.isSome_iff_exists.1 err
    simp [checkValidFrom, Scanner.eof, failedWith]
  | cons c rest => simp [checkValidFrom, Scanner.scan, failed]

/-- After the top-level value, the input stays valid exactly when only whitespace follows. -/
theorem checkValidFrom_ended {s : Scanner} (atEnd : s.step = .endTop) (ended : s.endTop = true)
    (noErr : s.err = none) (rest : List Char) : checkValidFrom s rest = none ↔ rest.all isSpace := by
  induction rest with
  | nil => simp [checkValidFrom, Scanner.eof, noErr, ended]
  | cons c rest ih =>
    by_cases space : isSpace c
    · simp [checkValidFrom, Scanner.scan, atEnd, stateEndTop, space, ih]
    · have failed := checkValidFrom_failed (s := (s.error "after top-level value").2) rfl rfl rest
      simp only [checkValidFrom, Scanner.scan, atEnd, stateEndTop, space] at failed ⊢
      exact iff_of_false (Option.ne_none_iff_isSome.2 failed) (by simp [space])

/-- The decoder's loop only moves forward. -/
theorem readValueFrom_ge (input : List Char) {s : Scanner} {n m : Nat} {rest : List Char}
    (read : readValueFrom input s n rest = .ok m) : n ≤ m := by
  induction rest generalizing s n with
  | nil =>
    unfold readValueFrom at read
    split at read
    · cases read; exact Nat.le_refl _
    · split at read <;> cases read
  | cons c rest ih =>
    unfold readValueFrom at read
    split at read
    case h_1 => cases read; exact Nat.le_refl _
    case h_4 => cases read
    case h_5 => exact Nat.le_of_succ_le (ih read)
    all_goals
      split at read
      · cases read; exact Nat.le_succ _
      · exact Nat.le_of_succ_le (ih read)

/-- From a live scanner, the rest of the input is valid exactly when the decoder's loop
reads a value out of it and only whitespace follows that value. -/
theorem checkValidFrom_iff (input : List Char) {s : Scanner} (live : s.Live) (n : Nat) (rest : List Char) :
    checkValidFrom s rest = none ↔ ∃ k, readValueFrom input s n rest = .ok (n + k) ∧ (rest.drop k).all isSpace := by
  induction rest generalizing s n with
  | nil =>
    obtain ⟨code, s', step⟩ : ∃ code s', s.scan ' ' = (code, s') := ⟨_, _, rfl⟩
    have endsAt : code = .scanEnd ↔ s'.endTop = true := by
      cases (step ▸ Scanner.scan_outcome live : Outcome ' ' (code, s')) with
      | failed _ notEnded => simp [notEnded]
      | ended _ _ ended => simp [ended]
      | endedBadly _ notSpace => cases notSpace
      | closedTop _ _ bracket => simp at bracket
      | closedInner _ _ bracket => simp at bracket
      | continued _ _ live' going => simp [going.2.1, live'.notEnded]
    have incomplete : ∀ m, (if input.all isSpace then .error eofError else .error unexpectedEOFError) ≠
        (Except.ok m : Except Error Nat) := fun m => by split <;> nofun
    simp only [checkValidFrom, Scanner.eof, live.noErr, live.notEnded, readValueFrom, step, ← endsAt]
    by_cases ended : code = .scanEnd
    · simp [ended]
    · simp only [if_neg ended]
      exact iff_of_false (by simp) fun ⟨_, read, _⟩ => incomplete _ read
  | cons c rest ih =>
    obtain ⟨code, s', step⟩ : ∃ code s', s.scan c = (code, s') := ⟨_, _, rfl⟩
    have outcome : Outcome c (code, s') := step ▸ Scanner.scan_outcome live
    have shift : (∃ k, readValueFrom input s' (n + 1) rest = .ok (n + 1 + k) ∧ (rest.drop k).all isSpace) ↔
        ∃ k, readValueFrom input s' (n + 1) rest = .ok (n + k) ∧ ((c :: rest).drop k).all isSpace := by
      constructor
      · rintro ⟨k, read, spaces⟩
        exact ⟨k + 1, by rw [read]; congr 1; omega, spaces⟩
      · rintro ⟨k, read, spaces⟩
        obtain ⟨k, rfl⟩ : ∃ k', k = k' + 1 := ⟨k - 1, by have := readValueFrom_ge input read; omega⟩
        exact ⟨k, by rw [read]; congr 1; omega, spaces⟩
    cases outcome with
    | failed => simp [checkValidFrom, readValueFrom, step]
    | ended _ space ended atEnd noErr =>
      simp [checkValidFrom, readValueFrom, step, checkValidFrom_ended atEnd ended noErr, space]
    | endedBadly _ notSpace ended failed err =>
      simp [checkValidFrom, readValueFrom, step, notSpace, Option.ne_none_iff_isSome.2 (checkValidFrom_failed failed err rest)]
    | closedTop code _ bracket ended atEnd noErr empty closing =>
      rcases closing with rfl | rfl <;>
        simp [checkValidFrom, readValueFrom, step, stateEndValue, empty, stateEndTop, isSpace,
          checkValidFrom_ended atEnd ended noErr]
    | closedInner code _ bracket live' inside closing =>
      obtain ⟨ps, rest', open'⟩ := List.exists_cons_of_ne_nil inside
      rcases closing with rfl | rfl <;>
        simp only [checkValidFrom, readValueFrom, step, stateEndValue, open', isSpace] <;>
        exact (ih live' (n + 1)).trans shift
    | continued code _ live' going =>
      cases code <;> simp only [ne_eq, not_true_eq_false, false_and, and_false] at going <;>
        simp only [checkValidFrom, readValueFrom, step] <;> exact (ih live' (n + 1)).trans shift

/-- Go's `json.Valid(data)` holds exactly when the decoder reads a first value out of
`data` and only whitespace follows it. -/
theorem Valid_iff_readValue (data : String) :
    Valid data = true ↔ ∃ n, readValue data.data = .ok n ∧ (data.data.drop n).all isSpace := by
  unfold Valid checkValid readValue
  simpa [Option.isNone_iff_eq_none] using checkValidFrom_iff data.data ⟨rfl, rfl, by decide⟩ 0 data.data

end Kuberpult.Json
