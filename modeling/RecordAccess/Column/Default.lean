import RecordAccess.Backend
import RecordAccess.Column.Basic
/-!
# Default Values

The literals among the default expressions of columns. SQL Server wraps an expression in any number
of parentheses. Expressions that are not literals of the column's type give no value.
-/

namespace RecordAccess

/-- The text between the parentheses that wrap a text, without blanks around it. -/
def unwrapped : List Char → List Char
  | '(' :: rest =>
    match _h : beforeEnding? [')'] rest with
    | some inner => unwrapped (trimChars inner)
    | none => '(' :: rest
  | text => text
termination_by text => text.length
decreasing_by
  have hl := length_trimChars_le inner
  have hr := congrArg List.length (eq_append_of_beforeEnding? _h)
  simp only [List.length_append, List.length_cons] at hr ⊢
  omega

/-- The content of a text that starts and ends with a quote, with doubled quotes made single. The
letter that marks national characters may stand in front. -/
def quotedContent? (text : List Char) : Option String :=
  let opened :=
    match afterStart? ['N', '\''] text with
    | some rest => some rest
    | none => afterStart? ['\''] text
  (opened.bind (beforeEnding? ['\''])).map fun content => String.ofList (undoubled '\'' content)

/-- The value that a default expression gives a column of a logical type, where it is a literal. -/
def defaultValue? (backend : Backend) (type : LogicalType) (raw : String) : Option Value :=
  let trimmed := trimChars raw.toList
  let literal := match backend with
    | .sqlServer => unwrapped trimmed
    | .sqlite => trimmed
  match type with
  | .int => (readInt64? literal).map .int
  | .float => (Binary64.ofText? literal).map .float
  | .text => (quotedContent? literal).map .text
  | .dateTime => (quotedContent? literal).map .dateTime
  | .bool => (truthWord? (String.ofList literal)).map .bool

end RecordAccess
