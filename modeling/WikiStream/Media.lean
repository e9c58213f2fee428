import WikiStream.Text.Blank

namespace WikiStream.Media

/-- The last component of a path. Empty ones and single dots do not count, and two dots name no
file. -/
def lastName? (path : List Char) : Option (List Char) :=
  let parts := Text.splitOn '/' path
  match (parts.filter fun p ↦ p ≠ [] && p ≠ ['.']).getLast? with
  | some ['.', '.'] => none
  | name => name

/-- What follows the last dot of a name, if that dot is not its first character. -/
def extension? (path : List Char) : Option (List Char) :=
  (lastName? path).bind fun name ↦
    (Text.splitAt? '.' name.reverse).bind fun p ↦ if p.2 = [] then none else some p.1.reverse

def ofExtension (ext : String) : String :=
  match ext with
  | "png" => "image/png"
  | "jpg" | "jpeg" | "jpe" => "image/jpeg"
  | "gif" => "image/gif"
  | "svg" => "image/svg+xml"
  | "webp" => "image/webp"
  | "bmp" => "image/bmp"
  | "tif" | "tiff" => "image/tiff"
  | "ico" => "image/x-icon"
  | "xcf" => "image/x-xcf"
  | "pdf" => "application/pdf"
  | "djvu" => "image/vnd.djvu"
  | "txt" => "text/plain"
  | "ogg" | "oga" => "audio/ogg"
  | "ogv" => "video/ogg"
  | "mp3" => "audio/mpeg"
  | "wav" => "audio/x-wav"
  | "mp4" => "video/mp4"
  | "webm" => "video/webm"
  | "zip" => "application/zip"
  | "odt" => "application/vnd.oasis.opendocument.text"
  | "doc" => "application/msword"
  | _ => "application/octet-stream"

def detect (filename : String) : String :=
  ofExtension (String.ofList ((extension? filename.toList).getD [])).toLower

def isImage (type : String) : Bool := type.startsWith "image/"

end WikiStream.Media
