import VkVideoParser.Library.Histories
import VkVideoParser.H265.Runs

/-! What the moves do to the order counts that are kept and to the latency limit: nothing, but for the three that
count a picture, process an SPS and look for a bump. -/

namespace VkVideoParser.H265

open Execution Relation Histories

variable {P : Type} {env : Env P} {s t : Decoder P} {x y : Phase × Decoder P}

/-- The events of these three. -/
def Event.isShown : Event → Bool
  | .orderCount _ | .processSps _ | .bumping _ => true
  | _ => false

/-- Neither the order counts kept nor the latency limit change, and no event of them is added. -/
structure Quiet (s t : Decoder P) : Prop where
  log : ∃ l, t.store.log = l ++ s.store.log ∧ ∀ e ∈ l, e.isShown = false
  spsMaxLatencyPictures : t.spsMaxLatencyPictures = s.spsMaxLatencyPictures
  prevTid0PicPocLsb : t.prevTid0PicPocLsb = s.prevTid0PicPocLsb
  prevTid0PicPocMsb : t.prevTid0PicPocMsb = s.prevTid0PicPocMsb

lemma Quiet.of_log (h : t.store.log = s.store.log) (hl : t.spsMaxLatencyPictures = s.spsMaxLatencyPictures)
    (hlsb : t.prevTid0PicPocLsb = s.prevTid0PicPocLsb) (hmsb : t.prevTid0PicPocMsb = s.prevTid0PicPocMsb) : Quiet s t :=
  ⟨⟨[], h, by simp⟩, hl, hlsb, hmsb⟩

lemma Quiet.cons {e : Event} (he : e.isShown = false) (h : t.store.log = e :: s.store.log)
    (hl : t.spsMaxLatencyPictures = s.spsMaxLatencyPictures) (hlsb : t.prevTid0PicPocLsb = s.prevTid0PicPocLsb)
    (hmsb : t.prevTid0PicPocMsb = s.prevTid0PicPocMsb) : Quiet s t :=
  ⟨⟨[e], h, by simpa using he⟩, hl, hlsb, hmsb⟩

lemma quiet_keeps (h : Store.Keeps s.store t.store) (hl : t.spsMaxLatencyPictures = s.spsMaxLatencyPictures)
    (hlsb : t.prevTid0PicPocLsb = s.prevTid0PicPocLsb) (hmsb : t.prevTid0PicPocMsb = s.prevTid0PicPocMsb) : Quiet s t := by
  obtain ⟨l, hlog, hr⟩ := h.log
  refine ⟨⟨l, hlog, fun e he => ?_⟩, hl, hlsb, hmsb⟩
  have := hr e he
  cases e <;> first | rfl | cases this

/-- What a move can do to the order counts kept and to the latency limit. -/
inductive Shows (env : Env P) (s : Decoder P) : Decoder P → Prop
  | quiet {u : Decoder P} (h : Quiet s u) : Shows env s u
  | count {info : OrderInfo} {msb : Int} (h : Counted s info msb) : Shows env s ((s.emit (.orderCount info)).noteOrder info msb)
  | process {sps : GstH265SPS} {n : Nat} (h : s.setLatency sps = s.withLatency n) : Shows env s ((s.withLatency n).emit (.processSps sps))
  | look {site : BumpSite} {a b : Nat} (h : LimitsOf env s site a b) :
    Shows env s (s.emit (.bumping (s.bumpInfo env site a b)))

lemma Act.shows (h : Act env x y) : Shows env x.2 y.2 := by
  cases h with
  | showOrderCount info msb h => exact .count h
  | processSps sps hk hsame hn => exact .process hn
  | showBumping site a b h => exact .look h
  | book h => exact .quiet (.of_log h.log h.spsMaxLatencyPictures h.prevTid0PicPocLsb h.prevTid0PicPocMsb)
  | parsed parser h => cases h <;> exact .quiet (.cons rfl rfl rfl rfl rfl)
  | updateVps | updateSps | updatePps => exact .quiet ⟨⟨[_, _], rfl, by simp [Event.isShown]⟩, rfl, rfl, rfl⟩
  | removeFrame h => cases h <;> exact .quiet (.cons rfl rfl rfl rfl rfl)
  | alloc p hk hv =>
    refine .quiet ?_
    unfold Decoder.allocPicture
    simp only
    split <;> exact .cons rfl rfl rfl rfl rfl
  | unref p | unrefCurrent p => exact .quiet (quiet_keeps (Store.keeps_unref p _) rfl rfl rfl)
  | clearSets => exact .quiet (quiet_keeps (Store.keeps_unrefAll _ _) rfl rfl rfl)
  | deriveSets p pocs => exact .quiet (quiet_keeps (Store.keeps_deriveAndMarkRps pocs _) rfl rfl rfl)
  | markAllNonRef => exact .quiet (quiet_keeps (Store.keeps_dpbMarkAllNonRef _) rfl rfl rfl)
  | deleteUnused => exact .quiet (quiet_keeps (Store.keeps_dpbDeleteUnused _) rfl rfl rfl)
  | add p => exact .quiet (quiet_keeps (Store.keeps_storePicture p _) rfl rfl rfl)
  | bump drain => exact .quiet (quiet_keeps (Store.keeps_dpbBump drain _) rfl rfl rfl)
  | dpbClear => exact .quiet (quiet_keeps (Store.keeps_dpbClear _) rfl rfl rfl)
  | beginSequence | unhandledNALU | flush | finishFrame | start | slice | endPicture | display =>
    exact .quiet (.cons rfl rfl rfl rfl rfl)
  | _ => exact .quiet (.of_log rfl rfl rfl rfl)

/-- What the decoder keeps agrees with the log, whatever happens that is not shown. -/
lemma Quiet.always {Q : List Event → Event → Prop} (h : Quiet s t) (hq : ∀ e l, e.isShown = false → Q l e)
    (hs : Always Q s.store.log) : Always Q t.store.log := by
  obtain ⟨l, hl, hr⟩ := h.log
  rw [hl]
  exact always_append hr hq hs

/-- What is read off the events shown is the same after a move that shows nothing. -/
lemma Quiet.read {α : Type} {f : List Event → α} (h : Quiet s t) (hf : ∀ e l, e.isShown = false → f (e :: l) = f l) :
    f t.store.log = f s.store.log := by
  obtain ⟨l, hl, hr⟩ := h.log
  rw [hl]
  exact read_append hr hf

end VkVideoParser.H265
