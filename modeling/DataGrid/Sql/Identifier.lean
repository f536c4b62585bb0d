import DataGrid.Sql.Dialect
import DataGrid.Text.Segment

/-!
Names in SQL. A dotted name is quoted segment by segment; a segment is quoted when it could not stand
for itself: reserved words, capitals, and characters or initials that the database does not allow bare.
-/

namespace DataGrid.Sql

/-- Characters of a bare name. Besides ASCII letters, digits, the low line and the dollar sign these
are the two letters whose capital form is an ASCII letter. -/
def isLegalChar (c : Char) : Bool :=
  c.isAlphanum || c = '_' || c = '$' || c = 'ı' || c = 'ſ' || c = 'İ' || c = 'K'

/-- Whether a segment is made of legal characters only; one line feed may end it. -/
def isLegal (segment : List Char) : Bool :=
  let body := match segment.reverse with
    | '\n' :: rest => rest.reverse
    | _ => segment
  !body.isEmpty && body.all isLegalChar

namespace Dialect

def isForbiddenInitial (dialect : Dialect) (c : Char) : Bool :=
  c.isDigit || c = '$' || dialect.forbiddenInitials.contains c

def needsQuotes (dialect : Dialect) (segment : List Char) : Bool :=
  let folded := Text.lower segment
  dialect.reserved.contains (String.ofList folded) ||
    (match segment with
      | [] => true
      | c :: _ => dialect.isForbiddenInitial c) ||
    !isLegal segment || folded != segment

def quoteSegment (dialect : Dialect) (segment : List Char) : List Char :=
  dialect.quote ::
    dialect.percent (segment.flatMap fun c => if c = dialect.quote then [c, c] else [c]) ++ [dialect.quote]

def segment (dialect : Dialect) (chars : List Char) : List Char :=
  if dialect.needsQuotes chars then dialect.quoteSegment chars else chars

def identifierChars (dialect : Dialect) (name : List Char) : List Char :=
  ['.'].intercalate ((Text.segments '.' name).map dialect.segment)

def identifier (dialect : Dialect) (name : String) : String :=
  String.ofList (dialect.identifierChars name.toList)

def bareName (dialect : Dialect) (name : String) : String := String.ofList (dialect.segment name.toList)

end Dialect

end DataGrid.Sql
