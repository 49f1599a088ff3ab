import CodeAtlas.Heading
import CodeAtlas.Proofs.Text.LineEnds
import CodeAtlas.Python.Recovery
import Mathlib

/-!
# Lines with ends of any kind

The same lines may be written with line feeds, carriage returns or pairs of both behind them. All
these texts are normalized to one, the lines with a line feed behind each
(`normalizeNewlines_source`), if no carriage return and line feed of two line ends come together.
So they have the same headings and the same outline (`line_ends_do_not_matter`).
-/

namespace CodeAtlas.Text

/-- What may end a line. -/
inductive LineEnd where
  /-- A line feed. -/
  | feed
  /-- A carriage return and a line feed. -/
  | pair
  /-- A carriage return. -/
  | carriage
  deriving DecidableEq

/-- A line end as it is written. -/
def LineEnd.source : LineEnd → Text
  | .feed => ['\n']
  | .pair => ['\r', '\n']
  | .carriage => ['\r']

/-- A line with what ends it. -/
structure EndedLine where
  /-- The line. -/
  text : Text
  /-- What ends it. -/
  lineEnd : LineEnd
  /-- Nothing in the line ends it. -/
  not_mem : '\n' ∉ text ∧ '\r' ∉ text

namespace EndedLine

/-- A line as it is written. -/
def source (l : EndedLine) : Text := l.text ++ l.lineEnd.source

/-- Whether the end of a line and the next line, which is empty, are written as a pair. -/
def RunsInto (k l : EndedLine) : Prop := k.lineEnd = .carriage ∧ l.text = [] ∧ l.lineEnd = .feed
  deriving Decidable

/-- A line begins with a line feed just when it is empty and that ends it. -/
theorem head?_source_eq_feed_iff {l : EndedLine} {s : Text} :
    (l.source ++ s).head? = some '\n' ↔ l.text = [] ∧ l.lineEnd = .feed := by
  obtain ⟨t, e, ht⟩ := l
  cases t with
  | nil => cases e <;> simp [source, LineEnd.source]
  | cons c t =>
    have hc : c ≠ '\n' := fun hc => ht.1 (hc ▸ List.mem_cons_self ..)
    simp [source, hc]

end EndedLine

/-! ### One line end -/

theorem unifyLineEnds_pair (s : Text) :
    unifyLineEnds ('\r' :: '\n' :: s) = '\n' :: unifyLineEnds s := rfl

theorem unifyLineEnds_carriage {s : Text} (h : s.head? ≠ some '\n') :
    unifyLineEnds ('\r' :: s) = '\n' :: unifyLineEnds s := by
  rw [unifyLineEnds.eq_3 _ _ fun t _ hs => h (by rw [hs]; rfl), if_pos rfl]

/-- A line end is read as a line feed, unless it is a carriage return and a line feed follows. -/
theorem unifyLineEnds_lineEnd {e : LineEnd} {s : Text}
    (h : e = .carriage → s.head? ≠ some '\n') :
    unifyLineEnds (e.source ++ s) = '\n' :: unifyLineEnds s := by
  cases e with
  | feed => exact unifyLineEnds_cons (by decide) s
  | pair => exact unifyLineEnds_pair s
  | carriage => exact unifyLineEnds_carriage (h rfl)

/-! ### All lines -/

/-- The lines come out with a line feed behind each, whatever they were ended by. -/
theorem normalizeNewlines_source {ls : List EndedLine}
    (h : ls.IsChain fun k l => ¬ k.RunsInto l) :
    normalizeNewlines (ls.flatMap EndedLine.source) = ls.flatMap fun l => l.text ++ ['\n'] := by
  induction ls with
  | nil => rfl
  | cons l ls ih =>
    have hrest : l.lineEnd = .carriage → (ls.flatMap EndedLine.source).head? ≠ some '\n' := by
      intro hl hhead
      cases ls with
      | nil => cases hhead
      | cons k ls =>
        rw [List.flatMap_cons, EndedLine.head?_source_eq_feed_iff] at hhead
        exact (List.isChain_cons_cons.mp h).1 ⟨hl, hhead⟩
    have hls := ih h.tail
    rw [normalizeNewlines_eq] at hls
    rw [List.flatMap_cons, List.flatMap_cons, EndedLine.source, List.append_assoc,
      normalizeNewlines_append l.not_mem.2, normalizeNewlines_eq, unifyLineEnds_lineEnd hrest, hls,
      List.append_assoc, List.singleton_append]

/-- The kind of line ends does not matter. Normalizing writes the same lines with line feeds,
whatever they are ended by; it is one scan from left to right, leaves no carriage return and, done
again, changes nothing. So texts with the same lines have the same headings and the same outline. -/
theorem line_ends_do_not_matter (r : Python.Reader) :
    (∀ ls : List EndedLine, ls.IsChain (fun k l => ¬ k.RunsInto l) →
      normalizeNewlines (ls.flatMap EndedLine.source) = ls.flatMap fun l => l.text ++ ['\n']) ∧
    (∀ s, normalizeNewlines s = unifyLineEnds s ∧ '\r' ∉ normalizeNewlines s ∧
      normalizeNewlines (normalizeNewlines s) = normalizeNewlines s) ∧
    ∀ ks ls : List EndedLine, ks.IsChain (fun k l => ¬ k.RunsInto l) →
      ls.IsChain (fun k l => ¬ k.RunsInto l) → ks.map EndedLine.text = ls.map EndedLine.text →
        Heading.all (ks.flatMap EndedLine.source) = Heading.all (ls.flatMap EndedLine.source) ∧
        Python.Outline.ofText r (ks.flatMap EndedLine.source) =
          Python.Outline.ofText r (ls.flatMap EndedLine.source) := by
  refine ⟨fun ls h => normalizeNewlines_source h, fun s => ?_, ?_⟩
  · have hreturn := return_not_mem_normalizeNewlines s
    exact ⟨normalizeNewlines_eq s, hreturn, normalizeNewlines_eq_self hreturn⟩
  · intro ks ls hks hls htexts
    have hnormal : normalizeNewlines (ks.flatMap EndedLine.source) =
        normalizeNewlines (ls.flatMap EndedLine.source) := by
      have hmap (ms : List EndedLine) : (ms.flatMap fun l => l.text ++ ['\n']) =
          (ms.map EndedLine.text).flatMap (· ++ ['\n']) := by
        rw [List.flatMap_map]
      rw [normalizeNewlines_source hks, normalizeNewlines_source hls, hmap, hmap, htexts]
    rw [Heading.all, Heading.all, Python.Outline.ofText, Python.Outline.ofText, hnormal]
    exact ⟨rfl, rfl⟩

/-- Every kind of line end, with empty lines behind a carriage return and inside a docstring. -/
theorem line_ends_do_not_matter_mixed :
    let r := Python.Reader.standard
    ∃ ks ls : List EndedLine,
      ks.flatMap EndedLine.source = "# A\r\rdef f():\r\n  '''b\r\r\n  c'''\n".toList ∧
      ls.flatMap EndedLine.source = "# A\n\r\ndef f():\n  '''b\n\n  c'''\r".toList ∧
      ks.IsChain (fun k l => ¬ k.RunsInto l) ∧ ls.IsChain (fun k l => ¬ k.RunsInto l) ∧
      ks.map EndedLine.text = ls.map EndedLine.text ∧
      normalizeNewlines (ks.flatMap EndedLine.source) =
        "# A\n\ndef f():\n  '''b\n\n  c'''\n".toList ∧
      Heading.all (ks.flatMap EndedLine.source) = Heading.all (ls.flatMap EndedLine.source) ∧
      Heading.all (ls.flatMap EndedLine.source) = [⟨1, ['A'], 1⟩] ∧
      Python.Outline.ofText r (ks.flatMap EndedLine.source) =
        Python.Outline.ofText r (ls.flatMap EndedLine.source) ∧
      Python.Outline.ofText r (ls.flatMap EndedLine.source) =
        .ok ⟨none, [], [], [⟨['f'], 3, some "b\n\nc".toList⟩]⟩ := by
  intro r
  let ks : List EndedLine := [⟨"# A".toList, .carriage, by simp⟩, ⟨[], .carriage, by simp⟩,
    ⟨"def f():".toList, .pair, by simp⟩, ⟨"  '''b".toList, .carriage, by simp⟩,
    ⟨[], .pair, by simp⟩, ⟨"  c'''".toList, .feed, by simp⟩]
  let ls : List EndedLine := [⟨"# A".toList, .feed, by simp⟩, ⟨[], .pair, by simp⟩,
    ⟨"def f():".toList, .feed, by simp⟩, ⟨"  '''b".toList, .feed, by simp⟩,
    ⟨[], .feed, by simp⟩, ⟨"  c'''".toList, .carriage, by simp⟩]
  have hks : ks.IsChain fun k l => ¬ k.RunsInto l := by decide
  have hls : ls.IsChain fun k l => ¬ k.RunsInto l := by decide
  have hsame := (line_ends_do_not_matter r).2.2 ks ls hks hls rfl
  have hnormal := (line_ends_do_not_matter r).1 ks hks
  exact ⟨ks, ls, by decide +kernel, by decide +kernel, hks, hls, rfl, hnormal, hsame.1,
    by decide +kernel, hsame.2, by decide +kernel⟩

end CodeAtlas.Text
