import BatchClassifier.Image.Anymap
import BatchClassifier.Image.Bitmap
import BatchClassifier.Image.Png
import BatchClassifier.ImageName
import BatchClassifier.Text.Quoted

namespace BatchClassifier

/-- The formats with a decoder, and those that are only recognised. -/
inductive ImageFormat
  | png
  | bitmap
  | anymap
  | other (name : String)
deriving DecidableEq, Repr

namespace ImageFormat

/-- The first bytes of a format; nothing stands for a byte that may be any. -/
def signatures : List (List (Option UInt8) × ImageFormat) :=
  [(Png.signature.map some, .png), (exactly [0xFF, 0xD8, 0xFF], .other "Jpeg"),
    (text "GIF89a", .other "Gif"), (text "GIF87a", .other "Gif"),
    (text "RIFF" ++ List.replicate 4 none ++ text "WEBP", .other "WebP"),
    (exactly [0x4D, 0x4D, 0x00, 0x2A], .other "Tiff"), (exactly [0x49, 0x49, 0x2A, 0x00], .other "Tiff"),
    (text "DDS ", .other "Dds"), (text "BM", .bitmap), (exactly [0, 0, 1, 0], .other "Ico"),
    (text "#?RADIANCE", .other "Hdr"),
    (exactly [0, 0] ++ List.replicate 2 none ++ text "ftypavif", .other "Avif"),
    (exactly [0x76, 0x2F, 0x31, 0x01], .other "OpenExr"), (text "qoif", .other "Qoi"),
    (text "P1", .anymap), (text "P2", .anymap), (text "P3", .anymap), (text "P4", .anymap),
    (text "P5", .anymap), (text "P6", .anymap), (text "P7", .anymap),
    (text "farbfeld", .other "Farbfeld")]
where
  exactly (bytes : List UInt8) : List (Option UInt8) := bytes.map some
  text (s : String) : List (Option UInt8) := s.toUTF8.toList.map some

def hasSignature : List (Option UInt8) → List UInt8 → Bool
  | [], _ => true
  | _ :: _, [] => false
  | none :: more, _ :: rest => hasSignature more rest
  | some b :: more, c :: rest => b == c && hasSignature more rest

def ofContent? (content : List UInt8) : Option ImageFormat :=
  (signatures.find? fun (s, _) => hasSignature s content).map Prod.snd

def byExtension : List (String × ImageFormat) :=
  [("png", .png), ("apng", .png), ("bmp", .bitmap), ("pbm", .anymap), ("pam", .anymap), ("ppm", .anymap),
    ("pgm", .anymap), ("pnm", .anymap), ("avif", .other "Avif"), ("jpg", .other "Jpeg"),
    ("jpeg", .other "Jpeg"), ("jfif", .other "Jpeg"), ("gif", .other "Gif"), ("webp", .other "WebP"),
    ("tif", .other "Tiff"), ("tiff", .other "Tiff"), ("tga", .other "Tga"), ("dds", .other "Dds"),
    ("ico", .other "Ico"), ("hdr", .other "Hdr"), ("exr", .other "OpenExr"), ("ff", .other "Farbfeld"),
    ("qoi", .other "Qoi")]

def ofExtension? (ext : String) : Option ImageFormat :=
  byExtension.lookup (String.ofList (ext.toList.map Char.toLower))

end ImageFormat

inductive DecodeError
  | undetermined
  | unknownExtension (ext : String)
  | unsupportedFormat (name : String)
  | io (fault : IoFault)
  | png (error : Png.Error)
  | bitmap (error : Bitmap.Error)
  | anymap (error : Anymap.Error)
deriving DecidableEq, Repr

def DecodeError.message : DecodeError → String
  | .undetermined => "The image format could not be determined"
  | .unknownExtension ext =>
    "The file extension `." ++ Text.quoted ext ++ "` was not recognized as an image format"
  | .unsupportedFormat name => "The image format " ++ name ++ " is not supported"
  | .io fault => fault.message
  | .png error => error.message "Png" Png.Fault.message
  | .bitmap error => error.message "Bmp" Bitmap.Fault.message
  | .anymap error => error.message "Pnm" Anymap.Fault.message

namespace ImageFormat

def decode (format : ImageFormat) (content : List UInt8) : Except DecodeError Raster :=
  match format with
  | .png => (Png.decode content).mapError .png
  | .bitmap => (Bitmap.decode content).mapError .bitmap
  | .anymap => (Anymap.decode content).mapError .anymap
  | .other name => .error (.unsupportedFormat name)

/-- The format of a file with the given name and content. An empty extension says nothing. -/
def determine (path : String) (content : List UInt8) : Except DecodeError ImageFormat :=
  match ofContent? content, (Path.extension? path).filter (!·.isEmpty) with
  | some format, _ => .ok format
  | none, none => .error .undetermined
  | none, some ext =>
    match ofExtension? ext with
    | some format => .ok format
    | none => .error (.unknownExtension ext)

end ImageFormat

def decodeImage (path : String) (content : List UInt8) : Except DecodeError Raster := do
  (← ImageFormat.determine path content).decode content

end BatchClassifier
