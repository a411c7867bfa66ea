import BatchClassifier.ImageName
import BatchClassifier.Proofs.Basic
import BatchClassifier.Proofs.Text.Lowering

namespace BatchClassifier

namespace Text

theorem cutAt_eq_splitOnP {α : Type} (separates : α → Bool) (l : List α) :
    cutAt separates l = l.splitOnP separates := by
  induction l with
  | nil => rw [cutAt, List.splitOnP_nil]
  | cons a l ih =>
      rw [cutAt, List.splitOnP_cons_eq_if_modifyHead, ih]
      split
      · rfl
      · cases hsplit : l.splitOnP separates with
        | nil => exact absurd hsplit (List.splitOnP_ne_nil separates l)
        | cons part more => rfl

end Text

namespace Path

def parts (path : List Char) : List (List Char) :=
  (path.splitOn '/').zipIdx.filterMap fun (part, index) =>
    if part = [] ∨ part = ['.'] ∧ index ≠ 0 then none else some part

def proper (path : List Char) : List (List Char) :=
  (path.splitOn '/').filter fun part => !part.isEmpty && part != ['.']

theorem filterMap_zipIdx_succ (l : List (List Char)) (n : Nat) :
    ((l.zipIdx (n + 1)).filterMap fun (part, index) =>
      if part = [] ∨ part = ['.'] ∧ index ≠ 0 then none else some part) =
      l.filter fun part => !part.isEmpty && part != ['.'] := by
  induction l generalizing n with
  | nil => rfl
  | cons part l ih =>
      rw [List.zipIdx_cons, List.filterMap_cons, ih, List.filter_cons]
      by_cases he : part = []
      · simp [he]
      · by_cases hd : part = ['.'] <;> simp [he, hd]

theorem names_eq_parts (path : List Char) : names path = parts path := by
  have hsplit : Text.cutAt (· == '/') path = path.splitOn '/' := Text.cutAt_eq_splitOnP _ path
  rw [names, parts, hsplit]
  cases path.splitOn '/' with
  | nil => rfl
  | cons first rest =>
      rw [List.zipIdx_cons, List.filterMap_cons, filterMap_zipIdx_succ]
      by_cases he : first = [] <;> simp [he]

theorem parts_eq (path : List Char) :
    parts path = (if (path.splitOn '/').head? = some ['.'] then [['.']] else []) ++ proper path := by
  rw [parts, proper]
  cases path.splitOn '/' with
  | nil => rfl
  | cons first rest =>
      rw [List.zipIdx_cons, List.filterMap_cons, filterMap_zipIdx_succ, List.filter_cons]
      by_cases he : first = []
      · simp [he]
      · by_cases hd : first = ['.'] <;> simp [he, hd]

theorem getLast?_parts {path part : List Char} (h : part ≠ ['.']) :
    (parts path).getLast? = some part ↔ (proper path).getLast? = some part := by
  rw [parts_eq, List.getLast?_append]
  split
  · cases (proper path).getLast? with
    | none => simp [Ne.symm h]
    | some last => rfl
  · rw [List.getLast?_nil, Option.or_none]

theorem proper_append_slash (front path : List Char) : proper (front ++ '/' :: path) = proper front ++ proper path := by
  have hsplit : (front ++ '/' :: path).splitOn '/' = front.splitOn '/' ++ path.splitOn '/' :=
    List.splitOnP_append_cons front path (beq_self_eq_true '/')
  rw [proper, hsplit, List.filter_append]
  rfl

theorem splitOn_cons (c : Char) (path : List Char) : (c :: path).splitOn '/' =
    if c = '/' then [] :: path.splitOn '/' else (path.splitOn '/').modifyHead (c :: ·) := by
  have hsplit := List.splitOnP_cons_eq_if_modifyHead (p := (· == '/')) c path
  simp only [beq_iff_eq] at hsplit
  exact hsplit

theorem splitOn_map_toLower (path : List Char) :
    (path.map Char.toLower).splitOn '/' = (path.splitOn '/').map (List.map Char.toLower) := by
  induction path with
  | nil => rfl
  | cons c path ih =>
      have hslash : c.toLower = '/' ↔ c = '/' := Text.toLower_eq_iff (by decide)
      rw [List.map_cons, splitOn_cons, splitOn_cons, ih, if_congr hslash rfl rfl]
      split
      · rfl
      · cases path.splitOn '/' <;> rfl

theorem proper_map_toLower (path : List Char) :
    proper (path.map Char.toLower) = (proper path).map (List.map Char.toLower) := by
  have hkeep : ∀ part : List Char, (!(part.map Char.toLower).isEmpty && part.map Char.toLower != ['.']) =
      (!part.isEmpty && part != ['.']) := by
    intro part
    have hdot : part.map Char.toLower = ['.'] ↔ part = ['.'] := by
      cases part with
      | nil => simp
      | cons c part => simp [Text.toLower_eq_iff (c := c) (d := '.') (by decide)]
    rw [List.isEmpty_map, Bool.eq_iff_iff]
    simp [hdot]
  rw [proper, splitOn_map_toLower, List.filter_map, proper]
  exact congrArg _ (List.filter_congr fun part _ => hkeep part)

theorem extensionOf?_append {stem ext : List Char} (hs : stem ≠ []) (he : '.' ∉ ext) :
    extensionOf? (stem ++ '.' :: ext) = some ext := by
  have hreverse : (stem ++ '.' :: ext).reverse = ext.reverse ++ '.' :: stem.reverse := by simp
  have hkept : '.' ∉ ext.reverse := mt List.mem_reverse.1 he
  obtain ⟨last, rest, hrest⟩ := List.exists_cons_of_ne_nil (mt List.reverse_eq_nil_iff.1 hs)
  have hdrop := dropWhile_bne_append hkept stem.reverse
  have htake := takeWhile_bne_append hkept stem.reverse
  rw [hrest] at hdrop htake
  rw [extensionOf?, hreverse, hrest]
  simp only [hdrop, htake, List.reverse_reverse]

theorem extensionOf?_eq_some_iff {name ext : List Char} :
    extensionOf? name = some ext ↔ ∃ stem, name = stem ++ '.' :: ext ∧ stem ≠ [] ∧ '.' ∉ ext := by
  constructor
  · intro h
    have hname := List.takeWhile_append_dropWhile (p := (· != '.')) (l := name.reverse)
    have hkept : '.' ∉ name.reverse.takeWhile (· != '.') := fun hm => by simpa using List.mem_takeWhile_imp hm
    rw [extensionOf?] at h
    split at h
    · cases h
    · cases h
    · rename_i dot rest hlong hdrop
      obtain rfl : (name.reverse.takeWhile (· != '.')).reverse = ext := Option.some.inj h
      have hdot : dot = '.' := by
        have hhead := List.head_dropWhile_not (l := name.reverse) (· != '.') (by simp [hdrop])
        simpa [hdrop] using hhead
      refine ⟨rest.reverse, ?_, fun hnil => ?_, fun hm => hkept (List.mem_reverse.1 hm)⟩
      · rw [hdrop, hdot] at hname
        have hback := congrArg List.reverse hname
        simpa using hback.symm
      · exact hlong (List.reverse_eq_nil_iff.1 hnil)
  · rintro ⟨stem, rfl, hs, he⟩
    exact extensionOf?_append hs he

theorem fileName?_eq_some_iff {path name : List Char} : fileName? path = some name ↔
    (parts path).getLast? = some name ∧ name ≠ ['.'] ∧ name ≠ ['.', '.'] := by
  rw [fileName?, names_eq_parts]
  cases (parts path).getLast? with
  | none => simp
  | some last =>
      by_cases hdot : last = ['.']
      · simp only [hdot, reduceCtorEq, Option.some.injEq, false_iff]
        exact fun h => h.2.1 h.1.symm
      by_cases hdots : last = ['.', '.']
      · simp only [hdots, reduceCtorEq, Option.some.injEq, false_iff]
        exact fun h => h.2.2 h.1.symm
      split
      · rename_i h
        cases h
      · rename_i h
        exact absurd (Option.some.inj h) hdot
      · rename_i h
        exact absurd (Option.some.inj h) hdots
      · rename_i h
        obtain rfl := Option.some.inj h
        constructor
        · intro he
          obtain rfl := Option.some.inj he
          exact ⟨rfl, hdot, hdots⟩
        · exact fun he => he.1

end Path

namespace ImageName

theorem map_toLower_extensions : ∀ supported ∈ extensions, supported.toList.map Char.toLower = supported.toList := by
  decide

theorem isSupported_iff {ext : List Char} (h : '.' ∉ ext) : isSupported (String.ofList ext) = true ↔
    ∃ supported ∈ extensions, ext.map Char.toLower = supported.toList.map Char.toLower := by
  have hlower : isSupported (String.ofList ext) = extensions.contains (lower ext) := by
    rw [isSupported, String.toList_ofList]
    split
    · exact absurd List.mem_cons_self h
    · rfl
  rw [hlower, List.contains_iff_mem]
  constructor
  · intro hm
    refine ⟨lower ext, hm, ?_⟩
    rw [map_toLower_extensions _ hm, lower, String.toList_ofList]
  · rintro ⟨supported, hm, he⟩
    rw [map_toLower_extensions _ hm] at he
    rwa [lower, he, String.ofList_toList]

/-- The part of a path is marked as an image: an extension stands behind it. -/
def Marked (part : List Char) : Prop :=
  ∃ stem ext, part = stem ++ '.' :: ext ∧ stem ≠ [] ∧ '.' ∉ ext ∧
    ∃ supported ∈ extensions, ext.map Char.toLower = supported.toList.map Char.toLower

theorem marked_iff {part : List Char} :
    Marked part ↔ ∃ ext, Path.extensionOf? part = some ext ∧ isSupported (String.ofList ext) = true := by
  constructor
  · rintro ⟨stem, ext, hpart, hs, he, hsupported⟩
    exact ⟨ext, Path.extensionOf?_eq_some_iff.2 ⟨stem, hpart, hs, he⟩, (isSupported_iff he).2 hsupported⟩
  · rintro ⟨ext, hext, hsupported⟩
    obtain ⟨stem, hpart, hs, he⟩ := Path.extensionOf?_eq_some_iff.1 hext
    exact ⟨stem, ext, hpart, hs, he, (isSupported_iff he).1 hsupported⟩

theorem not_marked_dot : ¬ Marked ['.'] := by
  rintro h
  obtain ⟨ext, hext, -⟩ := marked_iff.1 h
  cases hext

theorem not_marked_dots : ¬ Marked ['.', '.'] := by
  rintro h
  obtain ⟨ext, hext, hsupported⟩ := marked_iff.1 h
  cases hext
  exact absurd hsupported (by decide)

theorem accepts_iff_parts {path : String} :
    accepts path = true ↔ ∃ part, (Path.parts path.toList).getLast? = some part ∧ Marked part := by
  have hextension : accepts path = true ↔ ∃ name, Path.fileName? path.toList = some name ∧ Marked name := by
    simp only [marked_iff, accepts, Path.extension?]
    cases Path.fileName? path.toList with
    | none => simp
    | some name => cases h : Path.extensionOf? name <;> simp [h]
  rw [hextension]
  constructor
  · rintro ⟨name, hname, hmarked⟩
    exact ⟨name, (Path.fileName?_eq_some_iff.1 hname).1, hmarked⟩
  · rintro ⟨part, hpart, hmarked⟩
    refine ⟨part, Path.fileName?_eq_some_iff.2 ⟨hpart, ?_, ?_⟩, hmarked⟩
    · rintro rfl
      exact not_marked_dot hmarked
    · rintro rfl
      exact not_marked_dots hmarked

/-- A dot is never marked, so it does not matter whether one at the beginning is kept. -/
theorem accepts_iff_proper {path : String} :
    accepts path = true ↔ ∃ part, (Path.proper path.toList).getLast? = some part ∧ Marked part := by
  rw [accepts_iff_parts]
  refine exists_congr fun part => and_congr_left fun hmarked => Path.getLast?_parts ?_
  rintro rfl
  exact not_marked_dot hmarked

theorem marked_map_toLower {part : List Char} : Marked (part.map Char.toLower) ↔ Marked part := by
  have hdot : ∀ {c : Char}, c.toLower = '.' ↔ c = '.' := Text.toLower_eq_iff (by decide)
  have hmem : ∀ ext : List Char, '.' ∈ ext.map Char.toLower ↔ '.' ∈ ext := by
    intro ext
    simp [List.mem_map, hdot]
  have htwice : ∀ ext : List Char, (ext.map Char.toLower).map Char.toLower = ext.map Char.toLower := by
    intro ext
    rw [List.map_map]
    exact List.map_congr_left fun c _ => Text.toLower_toLower c
  constructor
  · rintro ⟨stem', ext', hpart, hs, he, supported, hm, heq⟩
    obtain ⟨stem, rest, rfl, rfl, hrest⟩ := List.map_eq_append_iff.1 hpart
    obtain ⟨c, ext, rfl, hc, rfl⟩ := List.map_eq_cons_iff.1 hrest
    obtain rfl := hdot.1 hc
    rw [htwice] at heq
    exact ⟨stem, ext, rfl, mt List.map_eq_nil_iff.2 hs, mt (hmem ext).2 he, supported, hm, heq⟩
  · rintro ⟨stem, ext, rfl, hs, he, supported, hm, heq⟩
    refine ⟨stem.map Char.toLower, ext.map Char.toLower, ?_, mt List.map_eq_nil_iff.1 hs, mt (hmem ext).1 he,
      supported, hm, ?_⟩
    · rw [List.map_append, List.map_cons, hdot.2 rfl]
    · rw [htwice, heq]

theorem accepts_iff_lowered {path : String} : accepts path = true ↔
    ∃ part, (Path.proper (path.toList.map Char.toLower)).getLast? = some part ∧ Marked part := by
  rw [accepts_iff_proper, Path.proper_map_toLower]
  simp only [List.getLast?_map, Option.map_eq_some_iff]
  constructor
  · rintro ⟨part, hpart, hmarked⟩
    exact ⟨_, ⟨part, hpart, rfl⟩, marked_map_toLower.2 hmarked⟩
  · rintro ⟨_, ⟨part, hpart, rfl⟩, hmarked⟩
    exact ⟨part, hpart, marked_map_toLower.1 hmarked⟩

theorem accepts_of_proper {path other : String} (h : Path.proper other.toList = Path.proper path.toList) :
    accepts other = accepts path := by
  rw [Bool.eq_iff_iff, accepts_iff_proper, accepts_iff_proper, h]

theorem accepts_append {path tail : String} (h : tail = "/" ∨ tail = "/.") :
    accepts (path ++ tail) = accepts path := by
  apply accepts_of_proper
  rw [String.toList_append]
  rcases h with rfl | rfl
  · exact (Path.proper_append_slash path.toList []).trans (List.append_nil _)
  · exact (Path.proper_append_slash path.toList ['.']).trans (List.append_nil _)

theorem accepts_append_join {tails : List String} (h : ∀ tail ∈ tails, tail = "/" ∨ tail = "/.") (path : String) :
    accepts (path ++ String.join tails) = accepts path := by
  induction tails generalizing path with
  | nil => rw [String.join_nil, String.append_empty]
  | cons tail tails ih =>
      have hrest := ih (fun other ho => h other (List.mem_cons_of_mem tail ho)) (path ++ tail)
      rw [String.join_cons, ← String.append_assoc, hrest, accepts_append (h tail List.mem_cons_self)]

theorem accepts_inside {path : String} {part : List Char} (hpart : (Path.parts path.toList).getLast? = some part)
    (hdot : part ≠ ['.']) (directory : String) : accepts (directory ++ "/" ++ path) = accepts path := by
  have hpath := (Path.getLast?_parts hdot).1 hpart
  have hboth : (Path.proper (directory ++ "/" ++ path).toList).getLast? = some part := by
    have hlist : (directory ++ "/" ++ path).toList = directory.toList ++ '/' :: path.toList := by simp
    rw [hlist, Path.proper_append_slash, List.getLast?_append, hpath]
    rfl
  rw [Bool.eq_iff_iff, accepts_iff_proper, accepts_iff_proper, hboth, hpath]

/-- A path is accepted if the last of its parts is marked as an image. Neither the case of its letters nor
slashes and dots behind it matter, nor what directory it is put into. -/
theorem accepts_by_last_part (path : String) :
    (accepts path = true ↔ ∃ part, (Path.parts path.toList).getLast? = some part ∧ Marked part) ∧
    (∀ other : String, other.toList.map Char.toLower = path.toList.map Char.toLower →
      accepts other = accepts path) ∧
    (∀ tails : List String, (∀ tail ∈ tails, tail = "/" ∨ tail = "/.") →
      accepts (path ++ String.join tails) = accepts path) ∧
    ∀ part, (Path.parts path.toList).getLast? = some part → part ≠ ['.'] →
      ∀ directory : String, accepts (directory ++ "/" ++ path) = accepts path := by
  refine ⟨accepts_iff_parts, fun other h => ?_, fun tails h => accepts_append_join h path,
    fun part hpart hdot directory => accepts_inside hpart hdot directory⟩
  rw [Bool.eq_iff_iff, accepts_iff_lowered, accepts_iff_lowered, h]

/-- A hidden file with capitals behind a dot, then with other letters, with slashes behind it, and in a
directory whose name ends like that of a text. -/
theorem accepts_by_last_part_hidden :
    "./.SHOT.png".toList.map Char.toLower = "./.shot.PnG".toList.map Char.toLower ∧
    (∀ tail ∈ ["/", "/.", "/"], tail = "/" ∨ tail = "/.") ∧
    (Path.parts "./.shot.PnG".toList).getLast? = some ".shot.PnG".toList ∧ ".shot.PnG".toList ≠ ['.'] ∧
    accepts "./.shot.PnG" = true ∧ accepts "./.SHOT.png" = true ∧ accepts "./.shot.PnG//./" = true ∧
    accepts "../notes.txt/./.shot.PnG" = true := by
  have hcase : "./.SHOT.png".toList.map Char.toLower = "./.shot.PnG".toList.map Char.toLower := by decide
  have htails : ∀ tail ∈ ["/", "/.", "/"], tail = "/" ∨ tail = "/." := by decide
  have hpart : (Path.parts "./.shot.PnG".toList).getLast? = some ".shot.PnG".toList := by decide
  have hdot : ".shot.PnG".toList ≠ ['.'] := by decide
  obtain ⟨hiff, hletters, hslashes, hinside⟩ := accepts_by_last_part "./.shot.PnG"
  have haccepts : accepts "./.shot.PnG" = true :=
    hiff.2 ⟨_, hpart, ".shot".toList, "PnG".toList, by decide, by decide, by decide, "png", by decide, by decide⟩
  exact ⟨hcase, htails, hpart, hdot, haccepts, (hletters _ hcase).trans haccepts,
    (hslashes _ htails).trans haccepts, (hinside _ hpart hdot "../notes.txt").trans haccepts⟩

end ImageName

end BatchClassifier
