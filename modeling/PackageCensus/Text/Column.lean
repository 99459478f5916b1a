/-! # Columns

Numbers in the columns of a listing stand at the right of a column of a given width.  One that is
wider takes the room that it needs. -/

namespace PackageCensus.Text

/-- A text with a character before it up to a width. -/
def padLeft (fill : Char) (width : Nat) (text : List Char) : List Char :=
  List.replicate (width - text.length) fill ++ text

/-- A number in a column of blanks. -/
def column (width : Nat) (n : Int) : String :=
  String.ofList (padLeft ' ' width (toString n).toList)

end PackageCensus.Text
