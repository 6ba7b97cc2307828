import Mathlib.Data.List.Forall2
import Mathlib.Data.List.Induction
import TabPruning.Proofs.Prune.Stages

namespace TabPruning

variable {ms ms' : List Marker} {d : Document} {l : Line} {m : Marker} {i : Nat} {e : Excision}
variable {c c' : Config} {text : String}

theorem find?_eraseDups {α : Type} [BEq α] [LawfulBEq α] (p : α → Bool) (as : List α) :
    as.eraseDups.find? p = as.find? p := by
  induction as using List.reverseRecOn
  case nil => rfl
  case append_singleton as a ih =>
    rw [List.eraseDups_append, List.find?_append, List.find?_append, ih]
    by_cases ha : a ∈ as
    case neg => simp [List.removeAll, ha, List.eraseDups_cons]
    case pos =>
      -- Where the repeated element would be found, it has been found before.
      cases hf : as.find? p
      case some => rfl
      case none =>
        have := List.find?_eq_none.mp hf a ha
        simp [List.removeAll, ha, this]

namespace Marker

-- Of the listed markers whose trigger stands on the line, `m` is the one that is listed first.
structure IsEarliest (ms : List Marker) (l : Line) (m : Marker) : Prop where
  listed   : m ∈ ms
  stands   : m.trigger.toList <:+: l
  earliest : ∀ m' ∈ ms, m'.trigger.toList <:+: l → ms.idxOf m ≤ ms.idxOf m'

-- The triggers of at least two of the listed markers stand on the line.
def Contested (ms : List Marker) (l : Line) : Prop :=
  ∃ m ∈ ms, ∃ m' ∈ ms, m ≠ m' ∧ m.trigger.toList <:+: l ∧ m'.trigger.toList <:+: l

end Marker

namespace Detector

theorem isEarliest_of_marker? (h : (ofMarkers ms).marker? l = some m) :
    Marker.IsEarliest ms l m := by
  rw [marker?, ofMarkers, find?_eraseDups] at h
  obtain ⟨hm, before, after, rfl, hb⟩ := List.find?_eq_some_iff_append.mp h
  have hnot (m' : Marker) (hm' : m'.trigger.toList <:+: l) : m' ∉ before :=
    fun hmem => by simpa [hm'] using hb m' hmem
  have hm : m.trigger.toList <:+: l := of_decide_eq_true hm
  refine ⟨by simp, hm, fun m' _ hm' => ?_⟩
  rw [List.idxOf_append_of_notMem (hnot m hm), List.idxOf_append_of_notMem (hnot m' hm'),
    List.idxOf_cons_self]
  omega

theorem marker?_eq_none_of_same (hm : ∀ m, m ∈ ms ↔ m ∈ ms')
    (h : (ofMarkers ms).marker? l = none) : (ofMarkers ms').marker? l = none := by
  rw [marker?_ofMarkers_eq_none_iff] at h ⊢
  exact fun m hmem => h m <| (hm m).mpr hmem

theorem exists_marker?_of_same (hm : ∀ m, m ∈ ms ↔ m ∈ ms')
    (h : (ofMarkers ms).marker? l = some m) : ∃ m', (ofMarkers ms').marker? l = some m' := by
  refine Option.ne_none_iff_exists'.mp fun hn => ?_
  cases h.symm.trans <| marker?_eq_none_of_same (fun m => (hm m).symm) hn

end Detector

-- Blocks that two lists of markers remove alike. If they are put down to different markers, that is
-- for the order of the lists.
structure Block.Alike (d : Document) (ms ms' : List Marker) (b b' : Block) : Prop where
  first     : b.first = b'.first
  last      : b.last = b'.last
  closed    : b.closed = b'.closed
  marked    : ∃ l, d[b.first]? = some l ∧ Marker.IsEarliest ms l b.marker ∧
    Marker.IsEarliest ms' l b'.marker
  contested : b.marker ≠ b'.marker → ∃ l, d[b.first]? = some l ∧ Marker.Contested ms l

theorem Block.alike (hm : ∀ m, m ∈ ms ↔ m ∈ ms') (hl : d[i]? = some l)
    (h : (Detector.ofMarkers ms).marker? l = some m)
    (h' : (Detector.ofMarkers ms').marker? l = some m') (last : Nat) (closed : Bool) :
    Alike d ms ms' ⟨i, last, m, closed⟩ ⟨i, last, m', closed⟩ := by
  have he := Detector.isEarliest_of_marker? h
  have he' := Detector.isEarliest_of_marker? h'
  refine ⟨rfl, rfl, rfl, ⟨l, hl, he, he'⟩, fun hne => ⟨l, hl, ?_⟩⟩
  exact ⟨m, he.listed, m', (hm m').mpr he'.listed, hne, he.stands, he'.stands⟩

-- Markers listed otherwise cut the document in the same places.
theorem Cut.exists_alike (hm : ∀ m, m ∈ ms ↔ m ∈ ms') (c : Cut (.ofMarkers ms) d i e) :
    ∃ e', Cut (.ofMarkers ms') d i e' ∧ e.kept = e'.kept ∧
      List.Forall₂ (Block.Alike d ms ms') e.log.blocks e'.log.blocks := by
  induction c
  case done h => exact ⟨_, .done h, rfl, .nil⟩
  case keep hl hn _ ih =>
    have ⟨e', c', hk, hb⟩ := ih
    exact ⟨_, .keep hl (Detector.marker?_eq_none_of_same hm hn) c', congrArg (_ :: ·) hk, hb⟩
  case block s _ hl h hs _ ih =>
    have ⟨e', c', hk, hb⟩ := ih
    have ⟨m', h'⟩ := Detector.exists_marker?_of_same hm h
    exact ⟨_, .block hl h' hs c', hk, .cons (Block.alike hm hl h h' s.index s.closed) hb⟩

theorem Document.excise_alike (hm : ∀ m, m ∈ ms ↔ m ∈ ms') (d : Document) :
    (d.excise (.ofMarkers ms)).kept = (d.excise (.ofMarkers ms')).kept ∧
      List.Forall₂ (Block.Alike d ms ms') (d.excise (.ofMarkers ms)).log.blocks
        (d.excise (.ofMarkers ms')).log.blocks := by
  have ⟨e', c', h⟩ := Cut.exists_alike hm <| exciseFrom_cut (.ofMarkers ms) d 0
  have he : d.excise (.ofMarkers ms') = e' := Cut.iff_eq_excise.mp c'
  exact he ▸ h

namespace Config

theorem strip_eq_of_kept_eq (hf : c.fields = c'.fields) (text : String)
    (hk : (c.excise text).kept = (c'.excise text).kept) :
    c.strip (c.excise text) = c'.strip (c'.excise text) := by
  rw [strip, strip, Excision.lines, Excision.lines, hf, hk]

-- Markers that are listed in another order, or repeatedly, leave the same text and remove the same
-- blocks and fields.
theorem prune_ignores_marker_order (hm : ∀ m, m ∈ c.markers ↔ m ∈ c'.markers)
    (hf : c.fields = c'.fields) (text : String) :
    let o := c.prune text
    let o' := c'.prune text
    o.text = o'.text ∧ o.removals = o'.removals ∧
      List.Forall₂ (Block.Alike (.ofText text.toList) c.markers c'.markers)
        o.log.blocks o'.log.blocks := by
  intro o o'
  have ⟨hk, hb⟩ := (Document.ofText text.toList).excise_alike hm
  have hs := strip_eq_of_kept_eq hf text hk
  refine ⟨?text, ?removals, hb⟩
  case text => exact congrArg (fun s => String.ofList s.toText) hs
  case removals =>
    simp only [o, o', prune, hs, Excision.sources]
    rw [show (c.excise text).kept = (c'.excise text).kept from hk]

-- Two triggers on one line: the block is put down to the one or the other.
theorem prune_ignores_marker_order_on_contested_line :
    let c : Config := { markers := [.automation, .team, .automation], fields := ["a"] }
    let c' : Config := { markers := [.team, .automation], fields := ["a"] }
    let text := "a: 1,\nif (activeTab === 'team' || activeTab === 'automation') \x7b\n\x7d\nb"
    (∀ m, m ∈ c.markers ↔ m ∈ c'.markers) ∧ c.fields = c'.fields ∧
      (c.prune text).text = (c'.prune text).text ∧
      (c.prune text).removals = (c'.prune text).removals ∧
      Block.Alike (.ofText text.toList) c.markers c'.markers
        ⟨1, 2, .automation, true⟩ ⟨1, 2, .team, true⟩ := by
  intro c c' text
  have hm : ∀ m, m ∈ c.markers ↔ m ∈ c'.markers := by rintro ⟨⟩ <;> decide
  have ⟨ht, hr, hb⟩ := prune_ignores_marker_order hm rfl text
  have h : (c.prune text).log.blocks = [⟨1, 2, .automation, true⟩] := by decide +kernel
  have h' : (c'.prune text).log.blocks = [⟨1, 2, .team, true⟩] := by decide +kernel
  rw [h, h'] at hb
  exact ⟨hm, rfl, ht, hr, (List.forall₂_cons.mp hb).1⟩

end Config

end TabPruning
