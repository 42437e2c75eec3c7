import ExpectError.Config.Basic
import ExpectError.EditPlan
import ExpectError.LineBuffer
import ExpectError.Question

/-!
# Inserting directives

The sites of a plan are taken one by one. A site outside the file is passed over, and so is one
whose line already has the directive above it. Otherwise a block goes in front of the line: one
comment for each message, then the note with the directive, all with the spaces that the line
starts with. No line that was there is changed.
-/

namespace ExpectError

structure Edit where
  /-- The line of the target before the insertion, where the block now starts. -/
  line : Int
  block : List String
  /-- The line in front of which the block stands. -/
  target : String
  deriving DecidableEq, Repr

/-- The line of the target behind the block. -/
def Edit.shiftedLine (edit : Edit) : Int :=
  edit.line + edit.block.length

/-- Why nothing was inserted at a site. -/
inductive SkipReason where
  | alreadySuppressed
  | outOfRange
  | declined
  deriving DecidableEq, Repr

def SkipReason.text : SkipReason → String
  | .alreadySuppressed => "already suppressed"
  | .outOfRange => "line out of range"
  | .declined => "declined"

/-- A site at which nothing was inserted. -/
structure Skip where
  line : Int
  reason : SkipReason
  deriving DecidableEq, Repr

/-! ## One site -/

/-- What bears on the sites of one file. -/
structure SiteRules where
  config : Config
  /-- The path as the report has it. -/
  path : String
  /-- The mark of a line that already silences the next. -/
  directive : String
  filesRemaining : Int

namespace SiteRules

/-- The question that a site raises, if its surroundings hint at markup. -/
def question? (rules : SiteRules) (site : Site) (lines : List String) : Option Question :=
  let window := Markup.Window.around lines (site.line - 1) rules.config.context
  if rules.config.isMarkupFile rules.path && Markup.anyHints window.lines then
    some {
      path := rules.path
      line := site.line
      messages := site.messages
      context := window.lines
      focus := window.focus
      filesRemaining := rules.filesRemaining }
  else none

end SiteRules

/-- The lines of an insertion: the messages and the note as comments, indented alike. -/
def Config.block (config : Config) (messages : List String) (style : CommentStyle) (indent : Nat) :
    List String :=
  (messages ++ [config.note]).filterMap fun text =>
    (style.render text).map (String.ofList (List.replicate indent ' ') ++ ·)

/-- Whether the line above a position holds the directive. The first line has none above it. -/
def isSuppressed (directive : String) (lines : List String) (index : Nat) : Bool :=
  match index with
  | 0 => false
  | above + 1 => Text.occursIn directive.toList (lines[above]?.getD "").toList

inductive SiteEnd where
  | edited (edit : Edit)
  | skipped (skip : Skip)
  /-- The decision source gave up. -/
  | abandoned
  deriving DecidableEq, Repr

structure Asked where
  question : Question
  answer : Option CommentStyle
  deriving DecidableEq, Repr

/-- What became of a site: the lines and the state of the decision source behind it, the question
if there was one, and the end. -/
structure SiteStep (σ : Type) where
  lines : List String
  state : σ
  asked : Option Asked
  ending : SiteEnd

/-- The style for a site: plain without a question, else what the decision source says. -/
def chooseStyle {σ : Type} (rules : SiteRules) (decide : Decider σ) (site : Site)
    (lines : List String) (state : σ) : Option CommentStyle × σ × Option Asked :=
  match rules.question? site lines with
  | none => (some .plain, state, none)
  | some question =>
    let (answer, state) := decide question state
    (answer, state, some ⟨question, answer⟩)

def insertAt (lines : List String) (index : Nat) (block : List String) : List String :=
  lines.take index ++ block ++ lines.drop index

def applySite {σ : Type} (rules : SiteRules) (decide : Decider σ) (site : Site)
    (lines : List String) (state : σ) : SiteStep σ :=
  let index := (site.line - 1).toNat
  if site.line < 1 then
    ⟨lines, state, none, .skipped ⟨site.line, .outOfRange⟩⟩
  else match lines[index]? with
    | none => ⟨lines, state, none, .skipped ⟨site.line, .outOfRange⟩⟩
    | some target =>
      if isSuppressed rules.directive lines index then
        ⟨lines, state, none, .skipped ⟨site.line, .alreadySuppressed⟩⟩
      else
        let (style, state, asked) := chooseStyle rules decide site lines state
        match style with
        | none => ⟨lines, state, asked, .abandoned⟩
        | some style =>
          match rules.config.block site.messages style (Markup.leadingSpaces target) with
          | [] => ⟨lines, state, asked, .skipped ⟨site.line, .declined⟩⟩
          | block =>
            ⟨insertAt lines index block, state, asked, .edited ⟨site.line, block, target⟩⟩

/-! ## All sites of a file -/

/-- What became of one site, with the number of lines that the file had then. -/
structure SiteRecord where
  size : Nat
  asked : Option Asked
  ending : SiteEnd
  deriving DecidableEq, Repr

/-- What became of the sites of a file. -/
structure Mutation (σ : Type) where
  lines : List String
  state : σ
  records : List SiteRecord

namespace Mutation

variable {σ : Type}

/-- Applies sites in their order. If the decision source gives up, the rest is left. -/
def apply (rules : SiteRules) (decide : Decider σ) :
    List Site → List String → σ → Mutation σ
  | [], lines, state => ⟨lines, state, []⟩
  | site :: sites, lines, state =>
    let step := applySite rules decide site lines state
    let record : SiteRecord := ⟨lines.length, step.asked, step.ending⟩
    if step.ending = .abandoned then ⟨step.lines, step.state, [record]⟩
    else
      let rest := apply rules decide sites step.lines step.state
      { rest with records := record :: rest.records }

def edits (mutation : Mutation σ) : List Edit :=
  mutation.records.filterMap fun r =>
    match r.ending with
    | .edited edit => some edit
    | _ => none

def skips (mutation : Mutation σ) : List Skip :=
  mutation.records.filterMap fun r =>
    match r.ending with
    | .skipped skip => some skip
    | _ => none

def asked (mutation : Mutation σ) : List Asked :=
  mutation.records.filterMap SiteRecord.asked

def changed (mutation : Mutation σ) : Bool :=
  !mutation.edits.isEmpty

/-- Whether the decision source gave up. -/
def abandoned (mutation : Mutation σ) : Bool :=
  mutation.records.any fun r => r.ending = .abandoned

end Mutation

end ExpectError
