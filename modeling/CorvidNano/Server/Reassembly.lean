import CorvidNano.Server.Microtasks

/-!
# Lines of the TypeScript bridge

`handleData` puts the lines of the host together from chunks, with a bound on the buffer. The
bound is applied before the complete lines are taken out, so that it is a bound on the unfinished
line with the next chunk. `feed_of_fits` and `feed_of_not_fits` say what a stream leads to, and
`reassembled_iff` when all its lines are handled.
-/

namespace CorvidNano.Server.Reassembly

open Microtasks RustBridge Runs Sockets

variable {Schema Value : Type} {config : Config Schema Value}
  {bridge before start : PluginBridge Schema Value} {i : Nat}

/-- The bridge can get a chunk from `this.socket`. -/
structure Ready (i : Nat) (bridge : PluginBridge Schema Value) : Prop where
  tasks : bridge.tasks = []
  socket : bridge.link.socket = some i
  phase : bridge.link.phase i = .opened

/-- A socket that has just been connected is ready, with an empty buffer. -/
theorem ready_connected (hstep : step config before (.connected i) = some start) :
    Ready i start ∧ start.buffer = [] := by
  have henabled := (step_eq_some.mp hstep).1
  simp only [PluginBridge.enabled, Bool.and_eq_true, List.isEmpty_iff] at henabled
  refine ⟨⟨?_, ?_, ?_⟩, ?_⟩
  · rw [tasks_step (by simp) (by simp) hstep, henabled.1]
  · rw [link_step hstep]
    rfl
  · rw [link_step hstep, PluginBridge.linkAfter, phase_handle_connect, if_pos rfl]
  · obtain ⟨_, rfl⟩ := step_eq_some.mp hstep
    show (refreshTools config _).buffer = []
    rw [refresh_tools_eq]

/-- A chunk that fits gives away its lines and leaves the unfinished one. -/
theorem drained_handle_data (hready : Ready i bridge) {chunk : JsString}
    (hfits : (bridge.buffer ++ chunk).length ≤ maxBufferBytes) :
    Ready i (drained config (handleData config bridge chunk)) ∧
      (drained config (handleData config bridge chunk)).buffer =
        (Lines.split newline (bridge.buffer ++ chunk)).2 ∧
      (drained config (handleData config bridge chunk)).handled =
        bridge.handled ++ parsed (Lines.split newline (bridge.buffer ++ chunk)).1 := by
  unfold handleData
  dsimp only
  rw [if_neg (Nat.not_lt.mpr hfits), foldl_handle_line_eq]
  exact ⟨⟨rfl, hready.socket, hready.phase⟩, rfl, rfl⟩

/-- A stream that fits is handled line by line. -/
theorem feed_of_fits (hready : Ready i bridge) (hbuffer : newline ∉ bridge.buffer)
    {chunks : List JsString}
    (hfits : Lines.Fits newline maxBufferBytes bridge.buffer chunks) :
    (feed config i bridge chunks).handled =
        bridge.handled ++
          parsed (Lines.split newline (bridge.buffer ++ chunks.flatten)).1 ∧
      (feed config i bridge chunks).link.phase i = .opened := by
  induction chunks generalizing bridge with
  | nil =>
      rw [List.flatten_nil, List.append_nil, Lines.split_of_not_mem hbuffer]
      exact ⟨(List.append_nil _).symm, hready.phase⟩
  | cons chunk rest ih =>
      obtain ⟨hchunk, hrest⟩ := hfits
      obtain ⟨hnext, hunfinished, hhandled⟩ :=
        @drained_handle_data _ _ config _ _ hready _ hchunk
      rw [feed, step_data_eq_some.mpr ⟨⟨hready.tasks, hready.phase⟩, rfl⟩]
      rw [← hunfinished] at hrest
      obtain ⟨hlines, hopen⟩ := ih hnext (hunfinished ▸ Lines.not_mem_of_split.2) hrest
      refine ⟨?_, hopen⟩
      show (feed config i (drained config (handleData config bridge chunk)) rest).handled = _
      rw [hlines, hhandled, hunfinished, List.flatten_cons, ← List.append_assoc bridge.buffer,
        Lines.split_append (bridge.buffer ++ chunk), List.append_assoc]
      simp [parsed]

/-- A stream that does not fit ends the connection. -/
theorem feed_of_not_fits (hready : Ready i bridge) {chunks : List JsString}
    (hfits : ¬Lines.Fits newline maxBufferBytes bridge.buffer chunks) :
    (feed config i bridge chunks).link.phase i = .destroyed := by
  induction chunks generalizing bridge with
  | nil => exact absurd trivial hfits
  | cons chunk rest ih =>
      rw [feed, step_data_eq_some.mpr ⟨⟨hready.tasks, hready.phase⟩, rfl⟩]
      by_cases hchunk : (bridge.buffer ++ chunk).length ≤ maxBufferBytes
      · obtain ⟨hnext, hbuffer, _⟩ := @drained_handle_data _ _ config _ _ hready _ hchunk
        refine ih hnext fun hrest => hfits ⟨hchunk, ?_⟩
        rwa [hbuffer] at hrest
      · have hphase : (handleData config bridge chunk).link.phase i = .destroyed := by
          rw [link_handle_data, if_pos (Nat.lt_of_not_le hchunk), phase_destroy_socket,
            if_pos ⟨hready.socket, by rw [hready.phase]; rfl⟩]
        show (feed config i (drained config (handleData config bridge chunk)) rest).link.phase i = _
        rw [feed_of_not_open]
        · exact hphase
        · show (handleData config bridge chunk).link.phase i ≠ _
          rw [hphase]
          simp

/-- On a socket that has just been connected: the lines of a stream are handled in order, each
once, and the connection stays open, if and only if at every chunk the unfinished line before it
and the chunk are together no longer than the bound. A stream with a line, finished or not, that is
longer than the bound ends the connection. -/
theorem reassembled_iff (hconnected : step config before (.connected i) = some start) :
    (∀ lines chunks, (∀ line ∈ lines, newline ∉ line) → chunks.flatten = Lines.join newline lines →
      ((feed config i start chunks).handled = start.handled ++ parsed lines ∧
          (feed config i start chunks).link.phase i = .opened ↔
        ∀ front chunk back, chunks = front ++ chunk :: back →
          (Lines.split newline front.flatten).2.length + chunk.length ≤ maxBufferBytes)) ∧
      ∀ chunks line, (line ∈ (Lines.split newline chunks.flatten).1 ∨
          line = (Lines.split newline chunks.flatten).2) → maxBufferBytes < line.length →
        (feed config i start chunks).link.phase i = .destroyed := by
  obtain ⟨hready, hempty⟩ := ready_connected hconnected
  have hbuffer : newline ∉ start.buffer := by
    rw [hempty]
    exact List.not_mem_nil
  refine ⟨fun lines chunks hlines hchunks => ?_, fun chunks line hline hlong => ?_⟩
  · have hsplit : (Lines.split newline (start.buffer ++ chunks.flatten)).1 = lines := by
      have hjoin := Lines.split_join_append hlines []
      rw [List.append_nil] at hjoin
      rw [hempty, List.nil_append, hchunks, hjoin]
      exact List.append_nil lines
    have hfits := @Lines.fits_iff _ newline _ maxBufferBytes _ chunks hbuffer
    rw [hempty] at hfits
    simp only [List.nil_append] at hfits
    rw [← hfits, ← hempty]
    refine ⟨fun hall => ?_, fun h => ?_⟩
    · by_contra hnot
      have hopen := hall.2
      rw [feed_of_not_fits hready hnot] at hopen
      cases hopen
    · rw [← hsplit]
      exact feed_of_fits hready hbuffer h
  · refine feed_of_not_fits hready fun hfits => ?_
    obtain ⟨hlines, hunfinished⟩ := Lines.length_le_of_fits (by simp [hempty]) hfits
    rw [hempty] at hlines hunfinished
    rcases hline with hline | rfl
    · exact absurd (hlines line hline) (Nat.not_le.mpr hlong)
    · exact absurd hunfinished (Nat.not_le.mpr hlong)

/-- A line whose end comes in a chunk of its own. -/
theorem two_chunks_reassembled :
    ∃ start, run (step silentConfig) .new [.connect, .connected 0] = some start ∧
      (feed silentConfig 0 start [[65], [newline]]).handled = [[65]] ∧
      (feed silentConfig 0 start [[65], [newline]]).link.phase 0 = .opened := by
  obtain ⟨before, start, hbefore, hconnected, hhandled⟩ :
      ∃ before start, run (step silentConfig) .new [.connect] = some before ∧
        step silentConfig before (.connected 0) = some start ∧ start.handled = [] :=
    ⟨_, _, rfl, rfl, rfl⟩
  have hrun : run (step silentConfig) .new [.connect, .connected 0] = some start := by
    rw [show [Event.connect, .connected 0] = [.connect] ++ [.connected 0] from rfl, run_append,
      hbefore]
    exact run_cons_eq_some.mpr ⟨start, hconnected, rfl⟩
  have hlines := (reassembled_iff hconnected).1 [[65]] [[65], [newline]] (by decide) rfl
  rw [hhandled] at hlines
  refine ⟨start, hrun, hlines.mpr ?_⟩
  have hfits : Lines.Fits newline maxBufferBytes [] [[65], [newline]] :=
    ⟨by decide, by decide, trivial⟩
  have hnot : newline ∉ ([] : JsString) := List.not_mem_nil
  simpa using (Lines.fits_iff hnot).mp hfits

/-- A line of exactly the bound without its end, in chunks of 64 KiB. -/
def longestLine : List JsString := List.replicate 16 (List.replicate 65536 120)

theorem flatten_longest_line : longestLine.flatten = List.replicate maxBufferBytes 120 := by
  rw [longestLine, List.flatten_replicate_replicate]
  rfl

/-- A line of exactly the bound ends the connection when its end comes. -/
theorem longest_line_destroyed :
    ∃ start, run (step silentConfig) .new [.connect, .connected 0] = some start ∧
      (longestLine ++ [[newline]]).flatten =
        Lines.join newline [List.replicate maxBufferBytes 120] ∧
      (feed silentConfig 0 start (longestLine ++ [[newline]])).link.phase 0 = .destroyed := by
  obtain ⟨start, hrun, hempty, htasks, hsocket, hphase⟩ :
      ∃ start, run (step silentConfig) .new [.connect, .connected 0] = some start ∧
        start.buffer = [] ∧ start.tasks = [] ∧ start.link.socket = some 0 ∧
        start.link.phase 0 = .opened := ⟨_, rfl, rfl, rfl, rfl, rfl⟩
  have hline : newline ∉ List.replicate maxBufferBytes (120 : UInt16) := fun hmem =>
    absurd (List.eq_of_mem_replicate hmem) (by decide)
  refine ⟨start, hrun, ?_, feed_of_not_fits ⟨htasks, hsocket, hphase⟩ fun hfits => ?_⟩
  · rw [List.flatten_append, flatten_longest_line, Lines.join_cons, Lines.join_nil]
    rfl
  · have hbuffer : newline ∉ start.buffer := by
      rw [hempty]
      exact List.not_mem_nil
    -- The chunk with the end of the line does not fit behind the line.
    have hlast := (Lines.fits_iff hbuffer).mp hfits longestLine [newline] [] rfl
    rw [hempty, List.nil_append, flatten_longest_line, Lines.split_of_not_mem hline] at hlast
    simp only [List.length_replicate] at hlast
    exact absurd hlast (by decide)

end CorvidNano.Server.Reassembly
