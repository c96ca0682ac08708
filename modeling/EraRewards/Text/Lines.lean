/-!
# Line breaks

Files are read with one kind of line break: a carriage return, alone or before a line feed, counts
as a line feed.
-/

namespace EraRewards
namespace Text

/-- A text with every line break written as a line feed. -/
def unifyBreaks : List Char → List Char
  | [] => []
  | '\r' :: '\n' :: rest => '\n' :: unifyBreaks rest
  | '\r' :: rest => '\n' :: unifyBreaks rest
  | c :: rest => c :: unifyBreaks rest

end Text
end EraRewards
