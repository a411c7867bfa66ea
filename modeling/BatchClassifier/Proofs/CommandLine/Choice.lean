import BatchClassifier.CommandLine.Program
import BatchClassifier.Proofs.Feed.Decoding

namespace BatchClassifier.CommandLine

open Text (entries)
open Text.Utf8 (decodeLossy)

theorem plan_feeds (w : Surroundings) (s : Settings) (model : Model) (classes : ClassNames) :
    let chosen := chooseSource w.terminal s.paths s.noExtensionCheck w.stdin
    (plan w s model classes).source = chosen.1 ∧
      (plan w s model classes).filter = chosen.2.getD .acceptAll :=
  ⟨rfl, rfl⟩

/-- With a terminal the paths of the command line are queued as they are, and the standard input is left
alone. Otherwise the paths are left alone, and of the lines of a standard input that just ends those are
queued that look like images, or all of them if that check is off. The count is the number of items in the
queue, which is closed. -/
theorem chosen_items_queued (terminal : Bool) (paths : List String) (noExtensionCheck : Bool) (stdin : Stream) :
    let chosen := chooseSource terminal paths noExtensionCheck stdin
    let outcome := Feed.outcome (chosen.2.getD .acceptAll) chosen.1
    (terminal = true → outcome = (.sealing paths, .ok paths.length)) ∧
    (terminal = false → 0 < stdin.capacity → stdin.fault = none →
      let lines := entries (decodeLossy stdin.bytes)
      let items := if noExtensionCheck then lines else lines.filter ImageName.accepts
      outcome = (.sealing items, .ok items.length)) ∧
    ∀ (w : Surroundings) (s : Settings) (model : Model) (classes : ClassNames),
      w.terminal = terminal → s.paths = paths → s.noExtensionCheck = noExtensionCheck → w.stdin = stdin →
      Feed.outcome (plan w s model classes).filter (plan w s model classes).source = outcome := by
  intro chosen outcome
  refine ⟨?_, ?_, ?_⟩
  · rintro rfl
    exact Feed.outcome_items .acceptAll paths
  · rintro rfl hc hn
    cases noExtensionCheck with
    | false => exact Feed.outcome_ofBool hc hn ImageName.accepts
    | true => exact Feed.outcome_acceptAll hc hn
  · rintro w s model classes rfl rfl rfl rfl
    obtain ⟨hsource, hfilter⟩ := plan_feeds w s model classes
    rw [hsource, hfilter]

/-- A stream that fails is no matter with a terminal. A piped line that names no image is left out, or is
not with the check off, whatever the arguments are. -/
theorem chosen_items_queued_piped :
    let broken : Stream := { chunks := [[97, 10]], fault := some (.ofKind .brokenPipe) }
    let piped : Stream := { chunks := [[97, 46, 112], [110, 103, 13, 10, 98]], capacity := 2 }
    Feed.outcome .acceptAll (chooseSource true ["b", "c.gif"] false broken).1 =
      (.sealing ["b", "c.gif"], .ok 2) ∧
    (chooseSource true ["b", "c.gif"] false broken).2 = none ∧
    0 < piped.capacity ∧ piped.fault = none ∧
    Feed.outcome (.ofBool ImageName.accepts) (chooseSource false ["c.gif"] false piped).1 =
      (.sealing ["a.png"], .ok 1) ∧
    Feed.outcome .acceptAll (chooseSource false ["c.gif"] true piped).1 =
      (.sealing ["a.png", "b"], .ok 2) := by
  intro broken piped
  have hc : 0 < piped.capacity := by decide
  have hlines : entries (decodeLossy piped.bytes) = ["a.png", "b"] := by decide +kernel
  have himages : ["a.png", "b"].filter ImageName.accepts = ["a.png"] := by decide +kernel
  have hterminal := (chosen_items_queued true ["b", "c.gif"] false broken).1 rfl
  have hchecked := (chosen_items_queued false ["c.gif"] false piped).2.1 rfl hc rfl
  have hall := (chosen_items_queued false ["c.gif"] true piped).2.1 rfl hc rfl
  simp only [hlines, himages, Bool.false_eq_true, if_false] at hchecked
  simp only [hlines, if_true] at hall
  exact ⟨hterminal, rfl, hc, rfl, hchecked, hall⟩

end BatchClassifier.CommandLine
