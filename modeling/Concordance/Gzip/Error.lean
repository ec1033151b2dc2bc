/-!
# Damaged compressed data

* `GzipError.message` is the text for each way in which compressed data can be damaged.
-/

namespace Concordance

/-- Why compressed data cannot be read. -/
inductive GzipError where
  /-- The data ends inside a header or a trailer. -/
  | unexpectedEnd
  /-- There is no header. -/
  | badHeader
  /-- A text in a header is too long. -/
  | textTooLong
  /-- A checksum or a length does not match. -/
  | badChecksum
  /-- The compressed blocks are invalid. -/
  | corruptBlocks
  /-- The compressed blocks end too early. -/
  | incompleteBlocks
  deriving DecidableEq, Repr

/-- The text for damaged data. -/
def GzipError.message : GzipError → String
  | .unexpectedEnd => "unexpected end of file"
  | .badHeader => "invalid gzip header"
  | .textTooLong => "gzip header field too long"
  | .badChecksum => "corrupt gzip stream does not have a matching checksum"
  | .corruptBlocks => "corrupt deflate stream"
  | .incompleteBlocks => "incomplete deflate stream"

end Concordance
