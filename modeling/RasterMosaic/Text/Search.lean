/-!
Search in texts.
-/

namespace RasterMosaic

namespace Text

/-- The part stands somewhere in the text, in one piece. -/
def mentions (part : List Char) : List Char → Bool
  | [] => part.isEmpty
  | c :: rest => part.isPrefixOf (c :: rest) || mentions part rest

end Text

end RasterMosaic
