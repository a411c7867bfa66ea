import BatchClassifier.Proofs.Basic
import BatchClassifier.Proofs.Classifier.Line

namespace BatchClassifier

namespace ImageFormat

theorem hasSignature_map_some {bytes content : List UInt8} (h : bytes <+: content) :
    hasSignature (bytes.map some) content = true := by
  obtain ⟨rest, rfl⟩ := h
  induction bytes with
  | nil => rfl
  | cons b bytes ih => simp [hasSignature, ih]

end ImageFormat

namespace Png

theorem of_check {condition : Bool} {fault : Fault} {u : Unit} (h : check condition fault = .ok u) :
    condition = true := by
  rw [check] at h
  split at h
  · assumption
  · cases h

theorem prefix_of_checkSignature {content : List UInt8} {u : Unit} (h : checkSignature content = .ok u) :
    signature <+: content := by
  rw [checkSignature] at h
  split at h
  · rename_i first hfirst
    obtain ⟨_, hf, h⟩ := exists_of_bind_ok h
    split at h
    · rename_i second hsecond
      have hfront : content.take 4 = signature.take 4 :=
        (Codec.slice?_eq_some hfirst).trans (of_decide_eq_true (of_check hf))
      have hback : (content.drop 4).take 4 = signature.drop 4 :=
        (Codec.slice?_eq_some hsecond).trans (of_decide_eq_true (of_check h))
      have hall : content.take (4 + 4) = signature := by
        rw [List.take_add, hfront, hback, List.take_append_drop]
      exact hall ▸ List.take_prefix (4 + 4) content
    · cases h
  · cases h

theorem prefix_of_decode {content : List UInt8} {image : Raster} (h : decode content = .ok image) :
    signature <+: content := by
  obtain ⟨_, hsignature, -⟩ := exists_of_bind_ok h
  exact prefix_of_checkSignature hsignature

end Png

namespace Bitmap

theorem prefix_of_readHeader {content : List UInt8} {header : Header} (h : readHeader content = .ok header) :
    "BM".toUTF8.toList <+: content := by
  obtain ⟨found, hfound, h⟩ := exists_of_bind_ok h
  have hsignature : found = "BM".toUTF8.toList := by
    by_cases heq : found = "BM".toUTF8.toList
    · exact heq
    · rw [if_pos heq] at h
      cases h
  rw [bytesAt] at hfound
  split at hfound
  · rename_i bytes hslice
    cases hfound
    have hall : content.take 2 = "BM".toUTF8.toList := (Codec.slice?_eq_some hslice).trans hsignature
    exact hall ▸ List.take_prefix 2 content
  · cases hfound

theorem prefix_of_decode {content : List UInt8} {image : Raster} (h : decode content = .ok image) :
    "BM".toUTF8.toList <+: content := by
  obtain ⟨_, hheader, -⟩ := exists_of_bind_ok h
  exact prefix_of_readHeader hheader

end Bitmap

namespace Anymap

theorem exists_of_magic? {content : List UInt8} {found : Kind × Bool × List UInt8}
    (h : magic? content = .ok found) :
    ∃ kind ∈ [49, 50, 51, 52, 53, 54], [80, kind] <+: content := by
  unfold magic? at h
  split at h
  · exact ⟨49, by decide, _, rfl⟩
  · exact ⟨50, by decide, _, rfl⟩
  · exact ⟨51, by decide, _, rfl⟩
  · exact ⟨52, by decide, _, rfl⟩
  · exact ⟨53, by decide, _, rfl⟩
  · exact ⟨54, by decide, _, rfl⟩
  all_goals cases h

theorem exists_of_decode {content : List UInt8} {image : Raster} (h : decode content = .ok image) :
    ∃ kind ∈ [49, 50, 51, 52, 53, 54], [80, kind] <+: content := by
  obtain ⟨_, hheader, -⟩ := exists_of_bind_ok h
  obtain ⟨_, hmagic, -⟩ := exists_of_bind_ok hheader
  exact exists_of_magic? hmagic

end Anymap

namespace ImageFormat

theorem signatures_anymap : ∀ kind ∈ [49, 50, 51, 52, 53, 54], ([80, kind].map some, anymap) ∈ signatures := by
  decide +kernel

theorem exists_signature_of_decode {format : ImageFormat} {content : List UInt8} {image : Raster}
    (h : format.decode content = .ok image) :
    ∃ bytes, (bytes.map some, format) ∈ signatures ∧ bytes <+: content := by
  cases format with
  | png => exact ⟨Png.signature, by simp [signatures], Png.prefix_of_decode (of_mapError_ok h)⟩
  | bitmap =>
      exact ⟨"BM".toUTF8.toList, by simp [signatures, signatures.text], Bitmap.prefix_of_decode (of_mapError_ok h)⟩
  | anymap =>
      obtain ⟨kind, hkind, hfront⟩ := Anymap.exists_of_decode (of_mapError_ok h)
      exact ⟨[80, kind], signatures_anymap kind hkind, hfront⟩
  | other name => cases h

theorem ofContent?_ne_none_of_decode {format : ImageFormat} {content : List UInt8} {image : Raster}
    (h : format.decode content = .ok image) : ofContent? content ≠ none := by
  obtain ⟨bytes, hmem, hfront⟩ := exists_signature_of_decode h
  rw [ofContent?, Ne, Option.map_eq_none_iff, List.find?_eq_none]
  exact fun hnone => hnone _ hmem (hasSignature_map_some hfront)

end ImageFormat

theorem decodeImage_of_recognised {content : List UInt8} {format : ImageFormat}
    (h : ImageFormat.ofContent? content = some format) (path : String) :
    decodeImage path content = format.decode content := by
  rw [decodeImage, ImageFormat.determine, h]
  rfl

theorem decodeImage_of_unrecognised {content : List UInt8} (h : ImageFormat.ofContent? content = none)
    (path : String) : ∃ d, decodeImage path content = .error d := by
  cases hd : decodeImage path content with
  | error d => exact ⟨d, rfl⟩
  | ok image =>
      obtain ⟨format, -, hdecode⟩ := exists_of_bind_ok hd
      exact absurd h (ImageFormat.ofContent?_ne_none_of_decode hdecode)

namespace FileTree

variable {files others : FileTree} {path other : String} {content : List UInt8}

theorem loadImage_alike (hf : files.read? path = some content) (ho : others.read? other = some content)
    (limit : Nat) :
    files.loadImage limit path = others.loadImage limit other ∨
      ImageFormat.ofContent? content = none ∧ ∃ d d', files.loadImage limit path = .error (.decode d) ∧
        others.loadImage limit other = .error (.decode d') := by
  simp only [loadImage, hf, ho]
  split
  · exact .inl rfl
  · split
    · exact .inl rfl
    · cases hc : ImageFormat.ofContent? content with
      | some format =>
          rw [decodeImage_of_recognised hc, decodeImage_of_recognised hc]
          exact .inl rfl
      | none =>
          obtain ⟨d, hd⟩ := decodeImage_of_unrecognised hc path
          obtain ⟨d', hd'⟩ := decodeImage_of_unrecognised hc other
          rw [hd, hd']
          exact .inr ⟨rfl, d, d', rfl, rfl⟩

/-- Content that two files have in common gives an image under both names or under none, and the same one. A
failure is the same too, but that a complaint of the decoder may be worded differently, which it only is for
content that is not recognised. Content that is recognised but not read here, such as an interlaced image,
fails under every name. -/
theorem name_ignored (hf : files.read? path = some content) (ho : others.read? other = some content)
    (limit : Nat) :
    (∀ image, files.loadImage limit path = .ok image ↔ others.loadImage limit other = .ok image) ∧
    (∀ e, files.loadImage limit path = .error e → ∃ e', others.loadImage limit other = .error e' ∧
      (e' = e ∨ ∃ d d', e = .decode d ∧ e' = .decode d')) ∧
    (ImageFormat.ofContent? content ≠ none →
      files.loadImage limit path = others.loadImage limit other) := by
  obtain heq | ⟨hnone, d, d', hd, hd'⟩ := loadImage_alike hf ho limit
  · rw [heq]
    exact ⟨fun image => Iff.rfl, fun e he => ⟨e, he, .inl rfl⟩, fun _ => rfl⟩
  · rw [hd, hd']
    refine ⟨fun image => iff_of_false nofun nofun, fun e he => ?_, fun h => absurd hnone h⟩
    exact ⟨_, rfl, .inr ⟨d, d', (Except.error.inj he).symm, rfl⟩⟩

/-- A pixmap that is called otherwise, and two letters that are no image, whether a name says so or not. -/
theorem name_ignored_disguised :
    let album : FileTree := ⟨[(["a.jpg".toList], .file Classifier.darkPixel), (["a.png".toList], .file [104, 105]),
      (["a".toList], .file [104, 105])]⟩
    Classifier.darkroom.read? "a.ppm" = some Classifier.darkPixel ∧
    album.read? "a.jpg" = some Classifier.darkPixel ∧ album.read? "a.png" = some [104, 105] ∧
    album.read? "a" = some [104, 105] ∧
    album.loadImage 104857600 "a.jpg" = .ok ⟨1, 1, ⟨.rgb, false⟩, #[1, 2, 3]⟩ ∧
    album.loadImage 100 "a" = .error (.decode .undetermined) ∧
    ∃ d, album.loadImage 100 "a.png" = .error (.decode d) := by
  intro album
  have hdark : Classifier.darkroom.read? "a.ppm" = some Classifier.darkPixel := by decide
  have hjpg : album.read? "a.jpg" = some Classifier.darkPixel := by decide
  have hpng : album.read? "a.png" = some [104, 105] := by decide
  have hplain : album.read? "a" = some [104, 105] := by decide
  have hundetermined : album.loadImage 100 "a" = .error (.decode .undetermined) := by decide +kernel
  have himage := (name_ignored hdark hjpg 104857600).1 ⟨1, 1, ⟨.rgb, false⟩, #[1, 2, 3]⟩
  obtain ⟨e, he, hsame⟩ := (name_ignored hplain hpng 100).2.1 _ hundetermined
  refine ⟨hdark, hjpg, hpng, hplain, himage.1 Classifier.loadImage_darkroom, hundetermined, ?_⟩
  obtain rfl | ⟨-, d, -, rfl⟩ := hsame
  · exact ⟨_, he⟩
  · exact ⟨d, he⟩

end FileTree

end BatchClassifier
