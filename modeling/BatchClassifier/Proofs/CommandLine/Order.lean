import BatchClassifier.Proofs.Basic
import BatchClassifier.Proofs.ByteSize.Grammar
import BatchClassifier.Proofs.CommandLine.Spelling

namespace BatchClassifier

namespace CommandLine

theorem Flag.mem_all (f : Flag) : f ∈ all := by
  cases f <;> decide

theorem Flag.nodup_all : all.Nodup := by
  decide

namespace Given

/-- The part of what is given that some flags stand for, with some paths. -/
def only (g : Given) (flags : List Flag) (paths : List String) : Given where
  model := if .model ∈ flags then g.model else none
  classes := if .classes ∈ flags then g.classes else none
  topK := if .topK ∈ flags then g.topK else none
  threads := if .threads ∈ flags then g.threads else none
  maxFileSize := if .maxFileSize ∈ flags then g.maxFileSize else none
  timing := .timing ∈ flags && g.timing
  softmax := .softmax ∈ flags && g.softmax
  noExtensionCheck := .noExtensionCheck ∈ flags && g.noExtensionCheck
  about := .about ∈ flags && g.about
  paths := paths

inductive Keeps (g : Given) : Flag → Option String → Prop
  | model {value : String} (hv : value ≠ "") (h : g.model = some value) : Keeps g .model (some value)
  | classes {value : String} (hv : value ≠ "") (h : g.classes = some value) : Keeps g .classes (some value)
  | topK {value : String} {n : Nat} (hn : Text.Numeral value n) (h : g.topK = some n) :
      Keeps g .topK (some value)
  | threads {value : String} {n : Nat} (hn : Text.Numeral value n) (h : g.threads = some n) :
      Keeps g .threads (some value)
  | maxFileSize {value : String} {n : Nat} (hn : ByteSize.parse value = .ok n) (h : g.maxFileSize = some n) :
      Keeps g .maxFileSize (some value)
  | timing (h : g.timing = true) : Keeps g .timing none
  | softmax (h : g.softmax = true) : Keeps g .softmax none
  | noExtensionCheck (h : g.noExtensionCheck = true) : Keeps g .noExtensionCheck none

variable {g : Given} {flags : List Flag} {paths : List String} {flag : Flag} {value : Option String}

theorem Keeps.takesValue (h : g.Keeps flag value) : flag.takesValue = value.isSome := by
  cases h <;> rfl

theorem Keeps.has (h : g.Keeps flag value) : g.has flag = true := by
  cases h <;> simp [Given.has, *]

theorem has_only (g : Given) (flags : List Flag) (paths : List String) (flag : Flag) :
    (g.only flags paths).has flag = (decide (flag ∈ flags) && g.has flag) := by
  cases flag <;> simp [Given.has, only, apply_ite Option.isSome]

theorem readPath_eq {text : String} (h : text ≠ "") (flag : Flag) : readPath flag text = .ok text :=
  if_neg fun he => h (String.isEmpty_iff.1 he)

theorem readNumber_eq {text : String} {n : Nat} (h : Text.Numeral text n) (flag : Flag) :
    readNumber flag text = .ok n := by
  rw [readNumber, h.readNat_eq]
  rfl

theorem readSize_eq {text : String} {n : Nat} (h : ByteSize.parse text = .ok n) (flag : Flag) :
    readSize flag text = .ok n := by
  rw [readSize, h]
  rfl

theorem take_only (h : g.Keeps flag value) (hf : flag ∉ flags) :
    (g.only flags paths).take flag value = .ok (g.only (flag :: flags) paths) := by
  have hnew : (g.only flags paths).has flag = false := by simp [has_only, hf]
  cases h with
  | model hv h | classes hv h =>
      simp only [take, store, hnew, readPath_eq hv]
      simp [only, h]
  | topK hn h | threads hn h =>
      simp only [take, store, hnew, readNumber_eq hn]
      simp [only, h]
  | maxFileSize hn h =>
      simp only [take, store, hnew, readSize_eq hn]
      simp [only, h]
  | timing h | softmax h | noExtensionCheck h =>
      simp only [take, raise, hnew]
      simp [only, h, pure, Except.pure]

theorem only_congr {others : List Flag} (h : ∀ f, g.has f = true → (f ∈ flags ↔ f ∈ others)) :
    g.only flags paths = g.only others paths := by
  simp only [only, Given.mk.injEq, and_true]
  exact ⟨ite_none_congr (h .model), ite_none_congr (h .classes), ite_none_congr (h .topK), ite_none_congr (h .threads),
    ite_none_congr (h .maxFileSize), decide_and_congr (h .timing), decide_and_congr (h .softmax),
    decide_and_congr (h .noExtensionCheck), decide_and_congr (h .about)⟩

theorem only_all (g : Given) : g.only Flag.all g.paths = g := by
  simp [only, Flag.all]

/-- The environment has the value of a flag, or the arguments have had it, or nothing is given for it. -/
inductive Supplied (g : Given) (environment : Environment) (flags : List Flag) (flag : Flag) : Prop
  | seen (hf : flag ∈ flags) (h : g.has flag = true)
  | environment {v : Flag.Value} {value : String} (hf : flag ∉ flags) (hv : flag.entry.value = some v)
      (he : environment v.environment = some value) (h : g.Keeps flag (some value))
  | absent (hv : ∀ v, flag.entry.value = some v → environment v.environment = none) (h : g.has flag = false)

theorem fill_only {environment : Environment} (h : g.Supplied environment flags flag) :
    (g.only flags paths).fill environment flag = .ok (g.only (flag :: flags) paths) := by
  cases h with
  | seen hf h =>
      have hsame : g.only (flag :: flags) paths = g.only flags paths :=
        only_congr fun f _ => ⟨fun hm => (List.mem_cons.1 hm).elim (fun he => he ▸ hf) id, List.mem_cons_of_mem flag⟩
      have hseen : (g.only flags paths).has flag = true := by simp [has_only, hf, h]
      rw [hsame, fill, hseen]
      split <;> rfl
  | @environment v value hf hv he h =>
      have hnew : (g.only flags paths).has flag = false := by simp [has_only, hf]
      rw [fill, hv, Option.bind_some, he, hnew]
      exact take_only h hf
  | absent hv h =>
      have hsame : g.only (flag :: flags) paths = g.only flags paths := by
        refine only_congr fun f hf => ⟨fun hm => (List.mem_cons.1 hm).resolve_left ?_, List.mem_cons_of_mem flag⟩
        rintro rfl
        exact Bool.false_ne_true (h.symm.trans hf)
      have hnone : flag.entry.value.bind (environment ·.environment) = none := by
        cases hentry : flag.entry.value with
        | none => rfl
        | some v => exact hv v hentry
      rw [hsame, fill, hnone]

theorem Supplied.cons {environment : Environment} {other : Flag} (h : g.Supplied environment flags flag)
    (hne : flag ≠ other) : g.Supplied environment (other :: flags) flag := by
  cases h with
  | seen hf h => exact .seen (List.mem_cons_of_mem other hf) h
  | environment hf hv he h => exact .environment (fun hm => (List.mem_cons.1 hm).elim hne hf) hv he h
  | absent hv h => exact .absent hv h

theorem foldlM_fill {environment : Environment} {all : List Flag} (hn : all.Nodup)
    (h : ∀ f ∈ all, g.Supplied environment flags f) :
    all.foldlM (fill environment) (g.only flags paths) = .ok (g.only (all.reverse ++ flags) paths) := by
  -- a flag that is asked for counts as seen from then on, and no other flag is concerned
  induction all generalizing flags with
  | nil => rfl
  | cons f all ih =>
      obtain ⟨hf, hn⟩ := List.nodup_cons.1 hn
      have hrest : ∀ f' ∈ all, g.Supplied environment (f :: flags) f' := fun f' hf' =>
        (h f' (List.mem_cons_of_mem f hf')).cons (ne_of_mem_of_not_mem hf' hf)
      rw [List.foldlM_cons, fill_only (h f List.mem_cons_self)]
      exact (ih hn hrest).trans (by rw [List.reverse_cons, List.append_assoc, List.singleton_append])

theorem foldlM_fill_all {environment : Environment} (h : ∀ f, g.Supplied environment flags f) :
    Flag.all.foldlM (fill environment) (g.only flags g.paths) = .ok g := by
  rw [foldlM_fill Flag.nodup_all fun f _ => h f]
  refine congrArg Except.ok (Eq.trans (only_congr fun f _ => ?_) g.only_all)
  exact iff_of_true (List.mem_append_left _ (List.mem_reverse.2 (Flag.mem_all f))) (Flag.mem_all f)

end Given

/-- Whatever the order of the options is, they come to the part of what is given that is theirs. -/
theorem Arranged.read {options : List (Flag × Option String)} {paths args : List String}
    (h : Arranged options paths args) {g : Given} (hg : ∀ o ∈ options, g.Keeps o.1 o.2)
    (hn : (options.map Prod.fst).Nodup) {flags : List Flag} (hf : ∀ o ∈ options, o.1 ∉ flags)
    {before : List String} {r : Reading} (hr : r.settle = .ok { given := g.only flags before }) :
    ∃ r', args.foldlM Reading.step r = .ok r' ∧
      r'.settle = .ok { given := g.only ((options.map Prod.fst).reverse ++ flags) (before ++ paths) } := by
  -- on the arguments, with the flags and paths that have been read already left free
  induction h generalizing flags before r with
  | nil => exact ⟨r, rfl, by simpa using hr⟩
  | @option flag value options paths args rest hs h ih =>
      obtain ⟨hflag, hn⟩ := List.nodup_cons.1 hn
      have hkeeps := hg (flag, value) List.mem_cons_self
      obtain ⟨r', hargs, hr'⟩ := hs.read hkeeps.takesValue hr
        (Given.take_only hkeeps (hf (flag, value) List.mem_cons_self))
      have hrest : ∀ o ∈ options, o.1 ∉ flag :: flags := by
        intro o ho hmem
        rcases List.mem_cons.1 hmem with heq | hmem
        · exact hflag (List.mem_map.2 ⟨o, ho, heq⟩)
        · exact hf o (List.mem_cons_of_mem _ ho) hmem
      obtain ⟨r'', hmore, hr''⟩ := ih (fun o ho => hg o (List.mem_cons_of_mem _ ho)) hn hrest hr'
      refine ⟨r'', ?_, ?_⟩
      · rw [List.foldlM_append, hargs]
        exact hmore
      · rw [hr'', List.map_cons, List.reverse_cons, List.append_assoc, List.singleton_append]
  | @path options path paths rest hp h ih =>
      have hstep := Reading.step_path hr hp
      have hpath : ({ given := g.only flags (before ++ [path]) } : Reading).settle =
          .ok { given := g.only flags (before ++ [path]) } := rfl
      obtain ⟨r', hmore, hr'⟩ := ih hg hn hf hpath
      refine ⟨r', ?_, ?_⟩
      · rw [List.foldlM_cons, hstep]
        exact hmore
      · rw [hr', List.append_assoc, List.singleton_append]

structure Wish where
  model : Option String := none
  classes : Option String := none
  topK : Option String := none
  threads : Option String := none
  maxFileSize : Option String := none
  timing : Bool := false
  softmax : Bool := false
  noExtensionCheck : Bool := false
  paths : List String := []

namespace Wish

def value (w : Wish) : Flag → Option String
  | .model => w.model
  | .classes => w.classes
  | .topK => w.topK
  | .threads => w.threads
  | .maxFileSize => w.maxFileSize
  | _ => none

def names (w : Wish) : Flag → Bool
  | .timing => w.timing
  | .softmax => w.softmax
  | .noExtensionCheck => w.noExtensionCheck
  | f => (w.value f).isSome

def options (w : Wish) : List (Flag × Option String) :=
  (Flag.all.filter w.names).map fun f => (f, w.value f)

/-- The arguments ask for this, in any spelling and in any order but that of the paths. -/
def Written (w : Wish) (args : List String) : Prop :=
  ∃ options, options.Perm w.options ∧ Arranged options w.paths args

/-- The value that counts: the environment is only asked for what is not asked for in the arguments. -/
def effective (w : Wish) (environment : Environment) (f : Flag) : Option String :=
  (w.value f).or (f.entry.value.bind (environment ·.environment))

structure Meets (w : Wish) (environment : Environment) (g : Given) : Prop where
  value : ∀ f text, w.effective environment f = some text → g.Keeps f (some text)
  plain : ∀ f, w.effective environment f = none → g.has f = w.names f
  paths : g.paths = w.paths

variable {w : Wish} {environment : Environment} {g : Given}

theorem mem_options {o : Flag × Option String} :
    o ∈ w.options ↔ w.names o.1 = true ∧ o.2 = w.value o.1 := by
  simp only [options, List.mem_map, List.mem_filter]
  constructor
  · rintro ⟨f, ⟨-, hf⟩, rfl⟩
    exact ⟨hf, rfl⟩
  · rintro ⟨hf, hv⟩
    exact ⟨o.1, ⟨Flag.mem_all o.1, hf⟩, Prod.ext rfl hv.symm⟩

theorem map_fst_options (w : Wish) : w.options.map Prod.fst = Flag.all.filter w.names := by
  rw [options, List.map_map]
  exact List.map_id _

theorem nodup_options (w : Wish) : (w.options.map Prod.fst).Nodup := by
  rw [map_fst_options]
  exact Flag.nodup_all.filter _

theorem value_of_not_names {f : Flag} (h : w.names f = false) : w.value f = none := by
  cases f <;> first | rfl | exact Option.not_isSome_iff_eq_none.1 (Bool.eq_false_iff.1 h)

theorem Meets.keeps (h : w.Meets environment g) {f : Flag} (hf : w.names f = true) : g.Keeps f (w.value f) := by
  cases hv : w.value f with
  | some text => exact h.value f text (by rw [effective, hv, Option.some_or])
  | none =>
      have hhas := h.plain f
      cases f with
      | model | classes | topK | threads | maxFileSize => simp [names, hv] at hf
      | timing => exact .timing ((hhas rfl).trans hf)
      | softmax => exact .softmax ((hhas rfl).trans hf)
      | noExtensionCheck => exact .noExtensionCheck ((hhas rfl).trans hf)
      | version | about | help => cases hf

theorem Meets.supplied (h : w.Meets environment g) {flags : List Flag} (hflags : ∀ f, f ∈ flags ↔ w.names f = true)
    (f : Flag) : g.Supplied environment flags f := by
  cases hf : w.names f with
  | true => exact .seen ((hflags f).2 hf) (h.keeps hf).has
  | false =>
      have hnew : f ∉ flags := fun hm => by simp [(hflags f).1 hm] at hf
      have heffective : w.effective environment f = f.entry.value.bind (environment ·.environment) := by
        rw [effective, value_of_not_names hf, Option.none_or]
      cases he : w.effective environment f with
      | some text =>
          obtain ⟨v, hv, htext⟩ := Option.bind_eq_some_iff.1 (heffective.symm.trans he)
          exact .environment hnew hv htext (h.value f text he)
      | none =>
          refine .absent (fun v hv => ?_) ((h.plain f he).trans hf)
          simpa [hv] using heffective.symm.trans he

theorem Meets.parse_eq (h : w.Meets environment g) {args : List String} (hw : w.Written args) :
    parse environment args = g.settings := by
  obtain ⟨options, hperm, harranged⟩ := hw
  have hflags : ∀ f, f ∈ (options.map Prod.fst).reverse ++ [] ↔ w.names f = true := by
    intro f
    rw [List.append_nil, List.mem_reverse, (hperm.map Prod.fst).mem_iff, map_fst_options, List.mem_filter]
    exact and_iff_right (Flag.mem_all f)
  have hkeeps : ∀ o ∈ options, g.Keeps o.1 o.2 := by
    intro o ho
    obtain ⟨hf, hv⟩ := mem_options.1 (hperm.mem_iff.1 ho)
    exact hv ▸ h.keeps hf
  have hstart : ({} : Reading).settle = .ok { given := g.only [] [] } := rfl
  obtain ⟨r, hread, hsettle⟩ := harranged.read hkeeps ((hperm.map Prod.fst).nodup_iff.2 w.nodup_options)
    (fun _ _ => List.not_mem_nil) hstart
  have hfill := Given.foldlM_fill_all (h.supplied hflags)
  rw [parse, hread]
  show (do let given ← Flag.all.foldlM (Given.fill environment) (← r.settle).given; given.settings) = _
  rw [hsettle, List.nil_append, ← h.paths]
  exact congrArg (· >>= Given.settings) hfill

def given (w : Wish) (model classes : String) (topK threads maxFileSize : Option Nat) : Given where
  model := some model
  classes := some classes
  topK := topK
  threads := threads
  maxFileSize := maxFileSize
  timing := w.timing
  softmax := w.softmax
  noExtensionCheck := w.noExtensionCheck
  paths := w.paths

theorem meets_given {model classes : String} {topK threads maxFileSize : Option Nat}
    (hmodel : w.effective environment .model = some model) (hm : model ≠ "")
    (hclasses : w.effective environment .classes = some classes) (hc : classes ≠ "")
    (htopK : Option.Rel Text.Numeral (w.effective environment .topK) topK)
    (hthreads : Option.Rel Text.Numeral (w.effective environment .threads) threads)
    (hsize : Option.Rel (fun text n => ByteSize.parse text = .ok n) (w.effective environment .maxFileSize)
      maxFileSize) :
    w.Meets environment (w.given model classes topK threads maxFileSize) := by
  refine ⟨fun f text h => ?_, fun f h => ?_, rfl⟩
  · cases f with
    | model =>
        obtain rfl := Option.some.inj (hmodel.symm.trans h)
        exact .model hm rfl
    | classes =>
        obtain rfl := Option.some.inj (hclasses.symm.trans h)
        exact .classes hc rfl
    | topK =>
        obtain ⟨n, hn, hnumeral⟩ := exists_of_rel (h ▸ htopK)
        exact .topK hnumeral hn
    | threads =>
        obtain ⟨n, hn, hnumeral⟩ := exists_of_rel (h ▸ hthreads)
        exact .threads hnumeral hn
    | maxFileSize =>
        obtain ⟨n, hn, hparse⟩ := exists_of_rel (h ▸ hsize)
        exact .maxFileSize hparse hn
    | timing | softmax | noExtensionCheck | version | about | help => cases h
  · have hvalue : w.value f = none := (Option.or_eq_none_iff.1 h).1
    have hsome : (w.effective environment f).isSome = (w.value f).isSome := by rw [h, hvalue]
    cases f with
    | model => cases hmodel.symm.trans h
    | classes => cases hclasses.symm.trans h
    | topK => exact (isSome_eq_of_rel htopK).trans hsome
    | threads => exact (isSome_eq_of_rel hthreads).trans hsome
    | maxFileSize => exact (isSome_eq_of_rel hsize).trans hsome
    | timing | softmax | noExtensionCheck | version | about | help => rfl

end Wish

/-- However the arguments are spelled and mixed, they are read as what they ask for, and the environment is
asked for the rest. -/
theorem every_order_parsed (w : Wish) (environment : Environment) {model classes : String}
    {topK threads maxFileSize : Option Nat}
    (hmodel : w.model.or (environment "BATCHCLS_MODEL") = some model) (hm : model ≠ "")
    (hclasses : w.classes.or (environment "BATCHCLS_CLASSES") = some classes) (hc : classes ≠ "")
    (htopK : Option.Rel Text.Numeral (w.topK.or (environment "BATCHCLS_TOP_K")) topK)
    (hthreads : Option.Rel Text.Numeral (w.threads.or (environment "BATCHCLS_THREADS")) threads)
    (hsize : Option.Rel (fun text n => ByteSize.parse text = .ok n)
      (w.maxFileSize.or (environment "BATCHCLS_MAX_FILESIZE")) maxFileSize) :
    let s : Settings :=
      { model := some model, classes := some classes, threads
        classifier :=
          { topK := topK.getD 5, softmax := w.softmax, timing := w.timing
            maxFileSize := maxFileSize.getD (100 * 1024 * 1024) }
        noExtensionCheck := w.noExtensionCheck, about := false, paths := w.paths }
    (∀ args, w.Written args → parse environment args = .ok s) ∧ s.workers? = threads.map (max · 1) := by
  intro s
  have hmeets := Wish.meets_given hmodel hm hclasses hc htopK hthreads hsize
  exact ⟨fun args hw => hmeets.parse_eq hw, rfl⟩

/-- Two orders and spellings of one wish. The environment has the class names and the threads, and what it
has for the top results is no number but does not count. -/
theorem every_order_parsed_mixed :
    let w : Wish := { model := some "m.onnx", topK := some "+03", timing := true, paths := ["b.png", "a.png"] }
    let environment : Environment := fun name =>
      if name = "BATCHCLS_CLASSES" then some "names" else if name = "BATCHCLS_THREADS" then some "0"
      else if name = "BATCHCLS_TOP_K" then some "many" else none
    let s : Settings :=
      { model := some "m.onnx", classes := some "names", threads := some 0
        classifier := { topK := 3, softmax := false, timing := true, maxFileSize := 104857600 }
        noExtensionCheck := false, about := false, paths := ["b.png", "a.png"] }
    w.Written ["-T", "b.png", "--model=m.onnx", "a.png", "-k", "+03"] ∧
    parse environment ["-T", "b.png", "--model=m.onnx", "a.png", "-k", "+03"] = .ok s ∧
    parse environment ["--top-k=+03", "b.png", "a.png", "-m", "m.onnx", "--timing"] = .ok s ∧
    s.workers? = some 1 := by
  intro w environment s
  have hmixed : w.Written ["-T", "b.png", "--model=m.onnx", "a.png", "-k", "+03"] := by
    refine ⟨[(.timing, none), (.model, some "m.onnx"), (.topK, some "+03")], by decide, ?_⟩
    refine .option .short (.path (by decide) ?_)
    refine .option (.longJoined "m.onnx") (.path (by decide) ?_)
    exact .option (.shortNext (by decide)) .nil
  have hapart : w.Written ["--top-k=+03", "b.png", "a.png", "-m", "m.onnx", "--timing"] := by
    refine ⟨[(.topK, some "+03"), (.model, some "m.onnx"), (.timing, none)], by decide, ?_⟩
    refine .option (.longJoined "+03") (.path (by decide) (.path (by decide) ?_))
    exact .option (.shortNext (by decide)) (.option .long .nil)
  have htopK : Text.Numeral "+03" 3 :=
    ⟨⟨['0', '3'], by decide, by simp, .inr (by decide), by decide⟩, by omega⟩
  have hthreads : Text.Numeral "0" 0 :=
    ⟨⟨['0'], by decide, by simp, .inl (by decide), by decide⟩, by omega⟩
  obtain ⟨hparse, hworkers⟩ := every_order_parsed w environment rfl (by decide)
    rfl (by decide) (.some htopK) (.some hthreads) .none
  exact ⟨hmixed, hparse _ hmixed, hparse _ hapart, hworkers⟩

end CommandLine

end BatchClassifier
