import BatchClassifier.Text.Cut

namespace BatchClassifier

namespace Path

/-- The names along a path. Empty ones and a dot are left out, but a leading dot is kept. -/
def names (path : List Char) : List (List Char) :=
  match Text.cutAt (· == '/') path with
  | [] => []
  | first :: rest =>
    (if first.isEmpty then [] else [first]) ++ rest.filter fun n => !n.isEmpty && n != ['.']

def fileName? (path : List Char) : Option (List Char) :=
  match (names path).getLast? with
  | none | some ['.'] | some ['.', '.'] => none
  | some name => some name

def extensionOf? (name : List Char) : Option (List Char) :=
  let reversed := name.reverse
  match reversed.dropWhile (· != '.') with
  | [] | [_] => none
  | _ :: _ => some (reversed.takeWhile (· != '.')).reverse

def extension? (path : String) : Option String :=
  ((fileName? path.toList).bind extensionOf?).map String.ofList

end Path

namespace ImageName

def extensions : List String :=
  ["bmp", "dib", "jpeg", "jpg", "jpe", "jp2", "png", "webp", "pbm", "pgm", "ppm", "pxm", "pnm",
    "sr", "ras", "tiff", "tif", "exr", "hdr", "pic", "dt0", "dt1", "dt2", "img", "j2k", "ecw"]

def lower (text : List Char) : String := String.ofList (text.map Char.toLower)

/-- A leading dot is ignored, and so is the case of ASCII letters. -/
def isSupported (ext : String) : Bool :=
  match ext.toList with
  | '.' :: rest => extensions.contains (lower rest)
  | all => extensions.contains (lower all)

def accepts (path : String) : Bool :=
  match Path.extension? path with
  | some ext => isSupported ext
  | none => false

end ImageName

end BatchClassifier
