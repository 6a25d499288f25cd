import LiveKitRust.DataStream.Integrity

/-!
# What `read_all` returns

`read_all` takes the end of its channel for the normal end of the stream. The channel ends when the
manager drops its sender: after a trailer, after an error, or with the manager itself
(`read_all_truncated`). `Reader.readsAll` is what the loop returns, from what its polls give.
-/

open Machine List

namespace LiveKit.DataStream

/-! ### The loop of `read_all` -/

section ReadAll

variable {α β : Type} {extend : α → α → α}

lemma readAll_map_append (g : β → StreamResult α) (items : List β) (buffer rest) :
    (∃ cs : List α, items.map g = cs.map .ok ∧
        readAll extend buffer (items.map (some ∘ g) ++ rest) =
          readAll extend (cs.foldl extend buffer) rest) ∨ ∃ item ∈ items, ∃ e, g item = .error e ∧
        readAll extend buffer (items.map (some ∘ g) ++ rest) = some (.error e) := by
  induction items generalizing buffer with
  | nil => exact .inl ⟨[], rfl, rfl⟩
  | cons item items ih =>
    cases hitem : g item with
    | error e =>
      refine .inr ⟨item, .head _, e, hitem, ?_⟩
      simp [readAll, hitem]
    | ok c =>
      have hhead : readAll extend buffer ((item :: items).map (some ∘ g) ++ rest) =
          readAll extend (extend buffer c) (items.map (some ∘ g) ++ rest) := by
        simp [readAll, hitem]
      rw [hhead]
      rcases ih (extend buffer c) with ⟨cs, hchunks, heq⟩ | ⟨item', hm, e, he, heq⟩
      · refine .inl ⟨c :: cs, ?_, heq⟩
        rw [map_cons, map_cons, hitem, hchunks]
      · exact .inr ⟨item', mem_cons_of_mem _ hm, e, he, heq⟩

lemma readAll_replicate (buffer : α) (ends : ℕ) : readAll extend buffer (replicate ends none) =
      if ends = 0 then none else some (.ok buffer) := by
  cases ends with
  | zero | succ => rfl

end ReadAll

lemma foldl_append (cs : List Bytes) (buffer : Bytes) :
    cs.foldl (· ++ ·) buffer = buffer ++ cs.flatten := by
  induction cs generalizing buffer with
  | nil => simp
  | cons _ _ ih => rw [foldl_cons, ih, flatten_cons, append_assoc]

lemma decodeItem_eq_ok {item text} :
    decodeItem item = .ok text ↔ item = .ok (Utf8.asBytes text) := by
  cases item with
  | error => simp [decodeItem]
  | ok c =>
    rw [Except.ok.injEq, ← Utf8.decode_eq_some_iff]
    cases h : Utf8.decode c <;> simp [decodeItem, h]

lemma eq_asBytes_of_decodeItem {items : List (StreamResult Bytes)} {texts : List String}
    (h : items.map decodeItem = texts.map .ok) : items = (texts.map Utf8.asBytes).map .ok := by
  induction items generalizing texts with
  | nil =>
    obtain rfl := map_eq_nil_iff.mp h.symm
    rfl
  | cons _ _ ih =>
    obtain ⟨_, _, rfl, htext, htexts⟩ := map_eq_cons_iff.mp h.symm
    rw [ih htexts.symm, decodeItem_eq_ok.mp htext.symm]
    rfl

def Reader.readAll (self : Reader) (items : List (Option (StreamResult Bytes))) :
    Option (StreamResult Bytes) :=
  match self.info.content with
  | .byteHeader => ByteStreamReader.readAll items
  | .textHeader => (TextStreamReader.readAll items).map (Except.map Utf8.asBytes)

def Reader.Stops (self : Reader) (item : StreamResult Bytes) : Prop :=
  (∃ e, item = .error e) ∨
    self.info.content = .textHeader ∧ ∃ chunk, item = .ok chunk ∧ Utf8.decode chunk = none

section ReadAllCases

variable (self : Reader) (items : List (StreamResult Bytes)) (ends : ℕ)

/-- `read_all` returns all of the items, once the end has been heard, or stops with an
error at one of them. -/
def Reader.ReadsAll : Prop :=
  (∃ contents : List Bytes, items = contents.map .ok ∧ (∀ item ∈ items, ¬ self.Stops item) ∧
      self.readAll (items.map some ++ List.replicate ends none) =
        if ends = 0 then none else some (.ok contents.flatten)) ∨
    (∃ item ∈ items, self.Stops item) ∧
      ∃ e, self.readAll (items.map some ++ List.replicate ends none) = some (.error e)

lemma Reader.readsAll_bytes (hcontent : self.info.content = .byteHeader) :
    self.ReadsAll items ends := by
  unfold ReadsAll readAll
  rw [hcontent]
  have hitems : items.map some = items.map (some ∘ id) := rfl
  rw [ByteStreamReader.readAll, hitems]
  rcases readAll_map_append id items [] (replicate ends none) with
    ⟨cs, hcontents, heq⟩ | ⟨item, hm, e, he, heq⟩
  · rw [map_id] at hcontents
    refine .inl ⟨cs, hcontents, ?_, ?_⟩
    · rintro _ hm (⟨e, rfl⟩ | ⟨htext, -⟩)
      · rw [hcontents] at hm
        exact absurd hm (by simp)
      · cases hcontent.symm.trans htext
    · rw [heq, readAll_replicate, foldl_append, nil_append]
  · exact .inr ⟨⟨item, hm, .inl ⟨e, he⟩⟩, e, heq⟩

lemma Reader.readsAll_text (hcontent : self.info.content = .textHeader) :
    self.ReadsAll items ends := by
  unfold ReadsAll readAll
  rw [hcontent]
  dsimp only
  have hitems : (items.map some ++ replicate ends none).map (Option.map decodeItem) =
      items.map (some ∘ decodeItem) ++ replicate ends none := by
    simp [Function.comp_def]
  rw [TextStreamReader.readAll, hitems]
  rcases readAll_map_append decodeItem items "" (replicate ends none) with
    ⟨texts, htexts, heq⟩ | ⟨item, hm, e, he, heq⟩
  · have hcontents := eq_asBytes_of_decodeItem htexts
    refine .inl ⟨texts.map Utf8.asBytes, hcontents, ?_, ?_⟩
    · -- what was decoded are the bytes of texts
      rintro _ hm (⟨e, rfl⟩ | ⟨-, _, rfl, hdecode⟩)
      · rw [hcontents] at hm
        exact absurd hm (by simp)
      · rw [hcontents, mem_map] at hm
        obtain ⟨_, hm, hok⟩ := hm
        cases hok
        obtain ⟨text, -, rfl⟩ := mem_map.mp hm
        cases hdecode.symm.trans (Utf8.decode_asBytes text)
    · rw [heq, readAll_replicate]
      split
      · rfl
      · rw [Option.map_some, Except.map, Utf8.asBytes_foldl, Utf8.asBytes_empty, nil_append]
  · refine .inr ⟨⟨item, hm, ?_⟩, e, by rw [heq]; rfl⟩
    cases item with
    | error e' => exact .inl ⟨e', rfl⟩
    | ok c =>
      refine .inr ⟨hcontent, c, rfl, ?_⟩
      cases hdecode : Utf8.decode c with
      | none => rfl
      | some => exact absurd he (by simp [decodeItem, hdecode])

lemma Reader.readsAll : self.ReadsAll items ends := by
  cases hcontent : self.info.content with
  | byteHeader => exact self.readsAll_bytes items ends hcontent
  | textHeader => exact self.readsAll_text items ends hcontent

end ReadAllCases

/-! ### Reading to the end -/

namespace Stream

variable (s : Stream)

lemma step_next (id) {n r} (hr : s.readers[n]? = some r) (hth : r.receiver ≠ .dropped) :
    s.step (.next id n) = (s.modifyReader n fun _ => r.pollNext.2,
      r.pollNext.1.toList.map (Received.mk id n)) := by
  simp only [step, next, hr]
  rw [if_neg hth]

/-- Polls of a channel that the manager has closed give what is in it, and then the
end of it, again and again. -/
lemma pollsOf_drain (id) {n r} (hr : s.readers[n]? = some r) (hhung : r.senderOpen = false)
    (hth : r.receiver ≠ .dropped) (k) :
    pollsOf n (outputs step s (replicate (r.queue.length + k) (.next id n))) =
      r.queue.map some ++ replicate k none := by
  induction hq : r.queue generalizing s r with
  | nil =>
    -- nothing changes any more
    have hpoll : r.pollNext = (some none, r) := by
      simp [Reader.pollNext, Reader.pollRecv, hq, hhung, Reader.rejects]
    have hsm : s.modifyReader n (fun _ => r) = s := by
      rw [modifyReader_congr s (g := fun r => r) fun r' hr' =>
        Option.mem_unique hr hr']
      exact congrArg (fun readers => { s with readers := readers }) (modify_id n s.readers)
    have hstep : s.step (.next id n) = (s, [⟨id, n, none⟩]) := by
      rw [step_next s id hr hth, hpoll, hsm]
      rfl
    induction k with
    | zero => rfl
    | succ _ ih =>
      rw [length_nil, Nat.zero_add] at ih ⊢
      rw [replicate_succ, outputs_cons, hstep, pollsOf_append, ih]
      simp [pollsOf, replicate_succ]
  | cons item queue ih =>
    obtain ⟨-, -, hsn, -⟩ := r.pollNext_frame
    have hf : r.pollNext.1 = some (some item) := by
      simp [Reader.pollNext, Reader.pollRecv, hq]
    have hrest : r.pollNext.2.queue = queue := by
      simp only [Reader.pollNext, Reader.pollRecv, hq]
      split <;> rfl
    have hthere' : r.pollNext.2.receiver ≠ .dropped := by
      simp only [Reader.pollNext, Reader.pollRecv, hq]
      split
      · simp
      · exact hth
    have hr' : (s.modifyReader n fun _ => r.pollNext.2).readers[n]? = some r.pollNext.2 := by
      simp only [modifyReader]
      rw [getElem?_modify_eq, hr]
      rfl
    rw [length_cons, Nat.add_right_comm, replicate_succ, outputs_cons,
      step_next s id hr hth, pollsOf_append, pollsOf_map_mk, if_pos rfl, hf]
    rw [ih _ hr' (hsn.trans hhung) hthere' hrest]
    rfl

end Stream

/-! ### Completeness -/

lemma Undecodable.stops {r : Reader} {polls : List (Option (StreamResult Bytes))}
    (h : Undecodable r.info polls) : ∃ item ∈ itemsOf polls, r.Stops item := by
  obtain ⟨htext, c, hm, hdecode⟩ := h
  refine ⟨.ok c, ?_, .inr ⟨htext, c, rfl, hdecode⟩⟩
  rw [itemsOf, mem_filterMap]
  exact ⟨some (.ok c), hm, rfl⟩

lemma Heard.polls_drained {r polls} (h : Heard r polls) :
    ∃ ends, polls ++ (r.queue.map some ++ replicate 1 none) =
        (itemsOf polls ++ r.queue).map some ++ replicate (ends + 1) none := by
  cases hq : r.queue with
  | nil =>
    obtain ⟨ends, hshape⟩ := h.shape
    refine ⟨ends, ?_⟩
    show polls ++ [none] = (itemsOf polls ++ []).map some ++ replicate (ends + 1) none
    rw [append_nil, replicate_succ', ← append_assoc, ← hshape]
  | cons =>
    refine ⟨0, ?_⟩
    have hpolls := h.eq_map_of_queue (by rw [hq]; simp)
    rw [map_append, ← hpolls, append_assoc]

section Lives

variable {D : Prop} {T : ℕ → Prop} {sys : Stream} {n : ℕ} {r : Reader}
  {polls : List (Option (StreamResult Bytes))} {since : List Action} {phase : Phase}

lemma Life.stops_of_failed {sent} (life : Life r.info since sent .failed) :
    ∃ item ∈ sent, r.Stops item := by
  obtain ⟨_, _, haccepted, hcounts⟩ := life.accepted
  obtain ⟨error, rfl⟩ := length_eq_one_iff.mp hcounts
  refine ⟨.error error, ?_, .inl ⟨error, rfl⟩⟩
  rw [haccepted.sent]
  exact mem_append_right _ (mem_singleton.mpr rfl)

lemma complete_of_readAll (hheard : Heard r polls)
    (life : Life r.info since (itemsOf polls ++ r.queue) phase)
    (hfits : phase.Fits D T sys n r polls) {data : Bytes}
    (hread : r.readAll polls = some (.ok data)) :
    D ∨ T n ∧ ∀ total ∈ r.info.totalLength, data.length = total := by
  obtain ⟨ends, hshape⟩ := hheard.shape
  rw [hshape] at hread
  rcases r.readsAll (itemsOf polls) ends with ⟨cs, hcontents, hstops, heq⟩ | ⟨-, e, heq⟩
  case inr => cases heq.symm.trans hread
  rw [heq] at hread
  split at hread
  next => cases hread
  next hends =>
  cases hread
  -- the end was heard, and no item stopped the loop
  have he : none ∈ polls := by
    rw [hshape]
    exact mem_append_right _ (mem_replicate.mpr ⟨hends, rfl⟩)
  obtain ⟨hq, hcl⟩ := hheard.ended he
  have hdecodes : ¬ Undecodable r.info polls := fun hbad => by
    obtain ⟨item, hm, hstop⟩ := hbad.stops
    exact hstops item hm hstop
  have hhung := hcl.resolve_right hdecodes
  rw [hq, append_nil] at life
  cases phase with
  | streaming => cases hhung.symm.trans hfits.1
  | completed =>
    refine .inr ⟨hfits.2, fun total htotal => ?_⟩
    obtain ⟨chunks, _, haccepted, rfl, hsize⟩ := life.accepted
    have hsent : cs = chunks.map fun c => c.2.content := by
      have hsent := hcontents.symm.trans haccepted.sent
      rw [map_nil, append_nil] at hsent
      apply map_injective_iff.mpr (fun _ _ => Except.ok.inj)
      rw [hsent, map_map]
      rfl
    rw [← hsize total htotal, hsent, length_flatten, map_map]
    rfl
  | failed =>
    obtain ⟨item, hm, hstop⟩ := life.stops_of_failed
    exact absurd hstop (hstops item hm)
  | abandoned => exact absurd (hfits.2.2 he) hdecodes
  | orphaned => exact .inl hfits.2

lemma error_of_hung (hheard : Heard r polls)
    (life : Life r.info since (itemsOf polls ++ r.queue) phase)
    (hfits : phase.Fits D T sys n r polls) (hhung : r.senderOpen = false)
    (hth : r.receiver ≠ .dropped) :
    D ∨ T n ∨ ∃ e, r.readAll (polls ++ (r.queue.map some ++ replicate 1 none)) =
      some (.error e) := by
  have herror : (∃ item ∈ itemsOf polls ++ r.queue, r.Stops item) →
      ∃ e, r.readAll (polls ++ (r.queue.map some ++ replicate 1 none)) = some (.error e) := by
    rintro ⟨item, hm, hstop⟩
    obtain ⟨ends, hdrained⟩ := hheard.polls_drained
    rw [hdrained]
    rcases r.readsAll (itemsOf polls ++ r.queue) (ends + 1) with
      ⟨-, -, hstops, -⟩ | ⟨-, heq⟩
    · exact absurd hstop (hstops item hm)
    · exact heq
  cases phase with
  | streaming => cases hhung.symm.trans hfits.1
  | completed => exact .inr (.inl hfits.2)
  | failed => exact .inr (.inr (herror life.stops_of_failed))
  | abandoned =>
    -- the receiver was closed, over a chunk that could not be decoded
    obtain ⟨-, hgone, -⟩ := hfits
    have hcl : r.receiver = .closed := by
      cases hreceiver : r.receiver with
      | listening => exact absurd hreceiver hgone
      | closed => rfl
      | dropped => exact absurd hreceiver hth
    obtain ⟨item, hm, hstop⟩ := (hheard.closed hcl).stops
    exact .inr (.inr (herror ⟨item, mem_append_left _ hm, hstop⟩))
  | orphaned => exact .inl hfits.2

end Lives

namespace Incoming

def Kept (self : Incoming) (action : Action) : Prop :=
  action = .drop → self.openStreams.entries = []
  deriving Decidable

/-- The manager has handled a trailer without a reason, with the stream open for this
reader. -/
def Completed (reservedTopics : List String) (actions : List Action) (id : StreamId) (n : ℕ) :
    Prop :=
  ∃ before identity encryptionType after, actions =
      before ++ .packet identity encryptionType (.streamTrailer ⟨id, ""⟩) :: after ∧
    ∃ descriptor, (state step (new reservedTopics) before).openStreams.lookup id = some descriptor ∧
      descriptor.chunkTx = n

lemma causes_of_kept {reserved acts} (hkept : Along step Kept (new reserved) acts) (id) (pre a)
    (after) (hactions : acts = pre ++ a :: after) (hcon : a.concerns id = true) :
    Causes False (Completed reserved acts id) ((state step (new reserved) pre).stream id) a where
  drop := by
    intro hdrop ho
    have hempty := along_iff_forall.mp hkept pre a after hactions hdrop
    refine ho (AList.lookup_eq_none.mpr ?_)
    simp [AList.mem_keys, AList.keys, hempty]
  trailer := by
    rintro ident enc streamId d rfl ho
    obtain rfl : streamId = id := of_decide_eq_true hcon
    exact ⟨pre, ident, enc, after, hactions, d, ho, rfl⟩

lemma polls_drain {reserved} (acts) {id n r}
    (hr : ((state step (new reserved) acts).readersOf id)[n]? = some r)
    (hhung : r.senderOpen = false) (hth : r.receiver ≠ .dropped) :
    polls id n (outputs step (new reserved) (acts ++ replicate (r.queue.length + 1) (.next id n))) =
      polls id n (outputs step (new reserved) acts) ++ (r.queue.map some ++ replicate 1 none) := by
  have hcon : (replicate (r.queue.length + 1) (Action.next id n)).filter
      (Action.concerns id) = replicate (r.queue.length + 1) (.next id n) :=
    filter_eq_self.mpr fun a hm => by
      rw [eq_of_mem_replicate hm]
      exact decide_eq_true rfl
  unfold polls
  rw [outputs_append, filter_append, pollsOf_append,
    (stream_run (state step (new reserved) acts) id _).2, hcon,
    Stream.pollsOf_drain _ id hr hhung hth 1]

/-- **Completeness.** Along a run in which the manager is kept, `read_all` of a reader
returns `Ok` only after a trailer without a reason, with data of exactly the announced
length; and once the manager has closed the channel in another way, `read_all` of a
reader that is still there returns an error when it has read to the end. -/
theorem read_all_complete (reservedTopics : List String) (actions : List Action)
    (h_kept : Along step Kept (new reservedTopics) actions) (id : StreamId) (n : ℕ)
    (reader : Reader)
    (h_reader : ((state step (new reservedTopics) actions).readersOf id)[n]? = some reader) :
    (∀ data, reader.readAll (polls id n (outputs step (new reservedTopics) actions)) =
        some (.ok data) → Completed reservedTopics actions id n ∧ ∀ total ∈ reader.info.totalLength,
        data.length = total) ∧ (reader.senderOpen = false → reader.receiver ≠ .dropped →
      ¬ Completed reservedTopics actions id n →
        ∃ e, reader.readAll (polls id n (outputs step (new reservedTopics)
          (actions ++ List.replicate (reader.queue.length + 1) (.next id n)))) =
            some (.error e)) := by
  have htracks := tracks reservedTopics actions id (causes_of_kept h_kept id)
  have hheard := htracks.heard n reader h_reader
  obtain ⟨_, _, _, _, -, -, life, hfits⟩ := htracks.lives n reader h_reader
  constructor
  · intro _ hread
    exact (complete_of_readAll hheard life hfits hread).resolve_left not_false
  · intro hhung hthere hnot
    rcases error_of_hung hheard life hfits hhung hthere with hfalse | hcompleted | _
    · exact hfalse.elim
    · exact absurd hcompleted hnot
    · rwa [polls_drain _ h_reader hhung hthere]

def halfway : List Action :=
  [.packet "alice" .none (.streamHeader ⟨"s", "t", some 4, some .byteHeader⟩),
    .packet "alice" .none (.streamChunk ⟨"s", 0, [1, 2]⟩)]

def halfwayCompleted : List Action :=
  halfway ++ [.next "s" 0, .packet "alice" .none (.streamChunk ⟨"s", 1, [3, 4]⟩),
    .packet "alice" .none (.streamTrailer ⟨"s", ""⟩), .next "s" 0, .next "s" 0]

theorem read_all_complete_halfway : Completed [] halfwayCompleted "s" 0 :=
  ((read_all_complete [] halfwayCompleted (by decide +kernel) "s" 0
    ⟨⟨.byteHeader, "s", "t", some 4, .none⟩, "alice", [], false, .listening⟩
    (by decide +kernel)).1 [1, 2, 3, 4] (by decide +kernel)).1

/-- **Half of a stream.** The manager is dropped with two of four bytes received, and
`read_all` returns the two. -/
theorem read_all_truncated : ByteStreamReader.readAll (polls "s" 0 (outputs step (new [])
      (halfway ++ [.drop, .next "s" 0, .next "s" 0]))) = some (.ok [1, 2]) := by
  decide +kernel

end Incoming

end LiveKit.DataStream
