import ExpectError.Text.Quoted

/-!
# Comments

The ways in which a line of text becomes a comment. A line comment is right everywhere but between
tags, where it would be shown as text; there the comment stands in braces. The third way is to
leave the text out.
-/

namespace ExpectError

/-- How the lines of an insertion are written. -/
inductive CommentStyle where
  /-- A line comment, for plain code. -/
  | plain
  /-- A comment in braces, for the inside of markup. -/
  | embedded
  /-- Nothing at all. -/
  | skip
  deriving DecidableEq, Repr

def CommentStyle.name : CommentStyle → String
  | .plain => "plain"
  | .embedded => "embedded"
  | .skip => "skip"

/-- What encloses the text of a comment; a silent form writes nothing. -/
structure CommentForm where
  label : String
  opening : String := ""
  closing : String := ""
  silent : Bool := false

namespace CommentForm

/-- The comment that holds a text, if the form writes any. -/
def render (form : CommentForm) (text : String) : Option String :=
  if form.silent then none else some (form.opening ++ text ++ form.closing)

def describe (form : CommentForm) : String :=
  form.label ++ "(prefix=" ++ Text.quoted form.opening ++ ", suffix=" ++ Text.quoted form.closing
    ++ ")"

/-- A form that encloses the text as given. -/
def custom (opening closing : String) : CommentForm :=
  { label := "Custom", opening, closing }

end CommentForm

def CommentStyle.form : CommentStyle → CommentForm
  | .plain => { label := "SlashCommentProcessor", opening := "// " }
  | .embedded =>
    { label := "JsxCommentProcessor", opening := "\x7b/* ", closing := " */\x7d" }
  | .skip => { label := "SkipCommentProcessor", silent := true }

/-- The comment of a style that holds a text; nothing if the style leaves it out. -/
def CommentStyle.render (style : CommentStyle) (text : String) : Option String :=
  style.form.render text

end ExpectError
