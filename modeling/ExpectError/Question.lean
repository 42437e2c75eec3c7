import ExpectError.Comment
import ExpectError.Markup

/-!
# Questions

A site whose surroundings hint at markup is put to a decision source. The source sees the site and
the lines around it and names a style; it may keep a state of its own, and it may also give up.
-/

namespace ExpectError

/-- What a decision source gets to see of a site. -/
structure Question where
  /-- The path as the report has it. -/
  path : String
  line : Int
  messages : List String
  /-- The lines around the target. -/
  context : List String
  /-- Where the target lies among them. -/
  focus : Int
  /-- The number of files that come after this one. -/
  filesRemaining : Int
  deriving DecidableEq, Repr

/-- The target line; positions below zero count from the end. -/
def Question.target? (q : Question) : Option String :=
  let position := if q.focus < 0 then q.context.length + q.focus else q.focus
  if position < 0 then none else q.context[position.toNat]?

/-- A source of decisions with a state of type `σ`. It answers a question with a style, or gives
up. -/
abbrev Decider (σ : Type) := Question → σ → Option CommentStyle × σ

namespace Decider

/-- The source that always gives the same answer. -/
def fixed {σ : Type} (style : CommentStyle) : Decider σ :=
  fun _ state => (some style, state)

/-- The source that gives the answers of a list one by one, and `plain` when it is used up. -/
def listed : Decider (List CommentStyle) :=
  fun _ answers => (some (answers.headD .plain), answers.tail)

/-- A source that never gives up. -/
def Answers {σ : Type} (decide : Decider σ) : Prop :=
  ∀ q state, ∃ style, (decide q state).1 = some style

end Decider

end ExpectError
