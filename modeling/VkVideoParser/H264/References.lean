import VkVideoParser.H264.Logs
import VkVideoParser.H264.Runs.Inputs
import VkVideoParser.H264.Script

/-! The reference pictures that start_picture writes into `dpb[]`. -/

namespace VkVideoParser.H264

open Execution Relation

variable {P : Type} {env : Env P} {k k' : Phase} {s t : Decoder P} {x y : Phase × Decoder P}

def Event.startInfo : Event → Option StartInfo
  | .startPicture _ info => some info
  | _ => none

/-- The calls of start_picture. -/
def startInfos (log : List Event) : List StartInfo := log.filterMap Event.startInfo

abbrev Stored := PicId × Picture × Option Picture

def entryOf (u : Stored) : DpbEntry := fillDbpEntry u.2.1 u.2.2

-- what gst_vk_h264_dec_start_picture collects, on the stored pictures
def collected (stored : List Stored) : List Stored :=
  let short := (stored.filter fun u =>
    !u.2.1.secondField && decide (u.2.1.ref = .shortTerm) && !u.2.1.nonexisting).take 17
  short ++ ((stored.filter fun u =>
    !u.2.1.secondField && decide (u.2.1.ref = .longTerm)).drop short.length).take (17 - short.length)

def stored (s : Decoder P) : List Stored := s.store.dpb.picList.map fun q => (q, s.pic q, s.store.otherPic q)

lemma collected_stored (s : Decoder P) :
    collected (stored s) = s.store.listedRefs.map fun q => (q, s.pic q, s.store.otherPic q) := by
  simp only [collected, stored, Store.listedRefs, Store.dpbGetPicturesShortTermRef,
    Store.dpbGetPicturesLongTermRef, List.filter_map, List.map_append, List.map_take, List.map_drop,
    List.length_take, List.length_map, Function.comp_def, Bool.false_or, Decoder.pic]

/-- How start_picture fills in `dpb[]`. -/
structure Collects (info : StartInfo) : Prop where
  entries : info.dpb = (collected info.stored).map entryOf ++
    List.replicate (17 - (collected info.stored).length) ({} : DpbEntry)
  once : (info.stored.map Prod.fst).Nodup

-- the entry in the place of a picture collected
lemma Collects.entry {info : StartInfo} (h : Collects info) {i : Nat} {u : Stored}
    (hu : (collected info.stored)[i]? = some u) : info.dpb[i]? = some (entryOf u) := by
  have hlt : i < ((collected info.stored).map entryOf).length := by
    rw [List.length_map]
    exact (List.getElem?_eq_some_iff.mp hu).1
  rw [h.entries, List.getElem?_append_left hlt, List.getElem?_map, hu]
  rfl

lemma collects_startInfo (p : PicId) (slice : GstH264Slice) (h : s.store.dpb.picList.Nodup) :
    Collects (s.startInfo env p slice) := by
  have hc : collected (s.startInfo env p slice).stored = _ := collected_stored s
  refine ⟨?_, ?_⟩
  · rw [hc, List.length_map, List.map_map]
    rfl
  · simpa [Decoder.startInfo, Function.comp_def] using h

lemma startInfos_releases {a b : Store} (h : Store.OnlyReleases a b) : startInfos b.log = startInfos a.log :=
  h.filterMap fun _ _ => rfl

lemma Act.startInfos (h : Act env x y) : startInfos y.2.store.log = startInfos x.2.store.log ∨
    ∃ p slice, x.1.current.filledBy p slice ∧ Numbered x.2 p slice ∧
      startInfos y.2.store.log = x.2.startInfo env p slice :: startInfos x.2.store.log := by
  cases h with
  | start p slice vkpic hk hv hidr hnum => exact .inr ⟨p, slice, hk, hnum, rfl⟩
  | book h => exact .inl (by rw [h.log])
  | number h | mark p hp hk h => exact .inl (congrArg H264.startInfos h.log)
  | unref p hp | unrefCurrent p hk | unrefLast p hp =>
    exact .inl (startInfos_releases (Store.onlyReleases_unref _ _))
  | deleteUnused => exact .inl (startInfos_releases (Store.onlyReleases_dpbDeleteUnused _))
  | bump drain p hp => exact .inl (startInfos_releases (Store.onlyReleases_dpbBump _ _))
  | dpbClear hp => exact .inl (startInfos_releases (Store.onlyReleases_dpbClear _))
  | add p hp hr | addLast p q hp hr =>
    obtain ⟨info, hlog⟩ := Store.addPicture_log _ _
    exact .inl ((congrArg H264.startInfos hlog).trans rfl)
  | alloc p hp =>
    left
    unfold Decoder.allocPicture
    simp only
    split <;> rfl
  | removeFrame h => cases h <;> exact .inl rfl
  | _ => exact .inl rfl

-- what holds of the start of a picture in every state that a run reaches
lemma startInfos_all {Q : StartInfo → Prop} {info : StartInfo}
    (hQ : ∀ x, ReflTransGen (Act env) (Phase.idle, Decoder.start env) x → ∀ p slice, x.1.current.filledBy p slice →
      Numbered x.2 p slice → Q (x.2.startInfo env p slice))
    (h : ReflTransGen (Act env) (Phase.idle, Decoder.start env) x) (hi : info ∈ startInfos x.2.store.log) :
    Q info := by
  induction h with
  | refl => cases hi
  | tail hreach hact ih =>
    rcases hact.startInfos with he | ⟨p, slice, hk, hnum, he⟩
    · exact ih (he ▸ hi)
    · rw [he] at hi
      rcases List.mem_cons.mp hi with rfl | hi
      · exact hQ _ hreach p slice hk hnum
      · exact ih hi

lemma collects_all {info : StartInfo} (h : ReflTransGen (Act env) (Phase.idle, Decoder.start env) x)
    (hi : info ∈ startInfos x.2.store.log) : Collects info :=
  startInfos_all (fun _ hreach p slice _ _ => collects_startInfo p slice (sound_start.reach hreach).placed.nodup) h hi

end VkVideoParser.H264
