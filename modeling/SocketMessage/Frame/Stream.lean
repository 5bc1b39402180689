import SocketMessage.Frame.Recv
import SocketMessage.Lib.Cutting
import SocketMessage.Lib.Locality

/-!
# What a stream of any bytes says

Read at once and with unbounded numbers, a stream is cut into packages by the heads in it.
The loop of the read callbacks does this in `int` arithmetic on a buffer that holds part of
the stream, again for every chunk that `recv` delivers. Whatever the bytes are and however
they arrive, the packages are the same.
-/

namespace SocketMessage.Frame

open SocketMessage.Lib

/-! ## Reading at once -/

/-- The first package of a stream, once all of it is there and at least one byte follows its
head. -/
def nextPackage (stream : List Byte) : Option (List Byte × List Byte) :=
  if 4 < stream.length then
    (readInt stream 0).bind fun head =>
      if 0 ≤ head.toInt ∧ 4 + head.toInt ≤ stream.length then
        some ((stream.drop 4).take head.toInt.toNat, stream.drop (4 + head.toInt.toNat))
      else none
  else none

theorem nextPackage_eq_some_iff {stream package rest : List Byte} :
    nextPackage stream = some (package, rest) ↔
      4 < stream.length ∧ ∃ head, readInt stream 0 = some head ∧ 0 ≤ head.toInt ∧
        4 + head.toInt ≤ stream.length ∧ package = (stream.drop 4).take head.toInt.toNat ∧
        rest = stream.drop (4 + head.toInt.toNat) := by
  rw [nextPackage, Option.ite_none_right_eq_some, Option.bind_eq_some_iff]
  refine and_congr_right fun _ => exists_congr fun head => and_congr_right fun _ => ?_
  rw [Option.ite_none_right_eq_some, Option.some.injEq, Prod.mk.injEq, and_assoc, eq_comm,
    @eq_comm _ _ rest]

/-- The head at the front does not depend on what follows. -/
theorem readInt_front {stream : List Byte} (more : List Byte) (long : 4 ≤ stream.length) :
    readInt (stream ++ more) 0 = readInt stream 0 := by
  have within := @readInt_within [] stream more 0 (Int.le_refl 0) (by omega)
  simpa using within

/-- The packages of a stream, one after the other. -/
def packageCutter : Cutter Byte (List Byte) where
  next := nextPackage
  shrinks := by
    intro stream package rest found
    obtain ⟨long, head, _, _, _, _, rfl⟩ := nextPackage_eq_some_iff.mp found
    rw [List.length_drop]
    omega
  stable := by
    intro stream package rest more found
    obtain ⟨long, head, read, nonnegative, present, rfl, rfl⟩ := nextPackage_eq_some_iff.mp found
    rw [nextPackage_eq_some_iff]
    refine ⟨by rw [List.length_append]; omega, head, ?_, nonnegative, ?_, ?_, ?_⟩
    · rw [readInt_front more (Nat.le_of_lt long), read]
    · rw [List.length_append]
      omega
    · rw [List.drop_append_of_le_length (Nat.le_of_lt long), List.take_append_of_le_length]
      rw [List.length_drop]
      omega
    · rw [List.drop_append_of_le_length (by omega)]

/-- The packages of a stream. -/
def packages (stream : List Byte) : List (List Byte) := (packageCutter.cut stream).1

/-- What of a stream belongs to no package yet. -/
def undecided (stream : List Byte) : List Byte := (packageCutter.cut stream).2

theorem packages_append (stream more : List Byte) :
    packages (stream ++ more) = packages stream ++ packages (undecided stream ++ more) :=
  congrArg Prod.fst (packageCutter.cut_append stream more)

theorem undecided_append (stream more : List Byte) :
    undecided (stream ++ more) = undecided (undecided stream ++ more) := by
  rw [undecided, packageCutter.cut_append]
  rfl

/-- The beginning of a frame: no more than a head, or less than its head announces. -/
def Incomplete (rest : List Byte) : Prop :=
  rest.length ≤ 4 ∨ ∃ head, readInt rest 0 = some head ∧ rest.length < 4 + head.toInt

/-- A head for which the loop asks `new` for a negative size, or computes the end of the frame
beyond `INT_MAX`. -/
def Unreadable (rest : List Byte) : Prop :=
  ∃ head, readInt rest 0 = some head ∧ (head.toInt < 0 ∨ 2 ^ 31 - readBufMaxSize < head.toInt)

/-! ## Streams of frames -/

/-- A whole frame in front of a stream is its first package, unless nothing follows its head. -/
theorem nextPackage_frame {payload after : List Byte} (small : 4 + payload.length ≤ readBufMaxSize)
    (long : 4 < (frame payload ++ after).length) :
    nextPackage (frame payload ++ after) = some (payload, after) := by
  have capacity : readBufMaxSize = 102400 := rfl
  have read : readInt (frame payload ++ after) 0 = some (BitVec.ofNat 32 payload.length) :=
    readInt_frame [] payload after
  have size := @toInt_ofNat_of_lt payload.length (by omega)
  refine nextPackage_eq_some_iff.mpr ⟨long, _, read, ?_, ?_, ?_, ?_⟩
  · omega
  · rw [size, List.length_append, length_frame]
    omega
  · rw [size, Int.toNat_natCast, frame, List.append_assoc, List.drop_left' (by simp),
      List.take_left' rfl]
  · rw [size, Int.toNat_natCast, List.drop_left' (length_frame payload)]

/-- The beginning of a stream of frames gives the first payloads, and the rest of the stream
belongs to the others. -/
theorem exists_waiting {payloads : List (List Byte)} {bytes rest : List Byte}
    (small : ∀ payload ∈ payloads, 4 + payload.length ≤ readBufMaxSize)
    (stream : bytes ++ rest = frames payloads) :
    ∃ waiting, payloads = packages bytes ++ waiting ∧
      undecided bytes ++ rest = frames waiting := by
  induction bytes using packageCutter.cut_induction generalizing payloads with
  | stops bytes nothing =>
      rw [packages, undecided, Cutter.cut_of_none nothing]
      exact ⟨payloads, rfl, stream⟩
  | continues bytes package left found inductionHypothesis =>
      have whole := packageCutter.stable rest found
      have long := (nextPackage_eq_some_iff.mp whole).1
      rw [stream] at whole long
      match payloads with
      | [] => simp [frames] at long
      | payload :: others =>
        have first := nextPackage_frame (small payload List.mem_cons_self) long
        obtain ⟨rfl, streamLeft⟩ := Prod.mk.inj (Option.some.inj (whole.symm.trans first))
        obtain ⟨waiting, rfl, streamRest⟩ := inductionHypothesis
          (fun other member => small other (List.mem_cons_of_mem _ member)) streamLeft
        have cut := Cutter.cut_of_some found
        refine ⟨waiting, ?_, ?_⟩
        · exact congrArg (· ++ waiting) (congrArg Prod.fst cut).symm
        · rw [undecided, cut]
          exact streamRest

/-- A head that has arrived is the size of a payload. -/
theorem head_of_frames {waiting : List (List Byte)} {bytes rest : List Byte} {head : CInt}
    (small : ∀ payload ∈ waiting, 4 + payload.length ≤ readBufMaxSize)
    (stream : bytes ++ rest = frames waiting) (read : readInt bytes 0 = some head) :
    ∃ payload ∈ waiting, head.toInt = payload.length := by
  have capacity : readBufMaxSize = 102400 := rfl
  have long := (readInt_isSome_iff.mp (Option.isSome_iff_exists.mpr ⟨head, read⟩)).2
  rw [← readInt_front rest (by omega), stream] at read
  match waiting with
  | [] => cases read
  | payload :: others =>
    have bounded := small payload List.mem_cons_self
    have first := readInt_frame [] payload (frames others)
    obtain rfl := Option.some.inj (read.symm.trans first)
    exact ⟨payload, List.mem_cons_self, toInt_ofNat_of_lt (by omega)⟩

/-- What has arrived of a frame is not unreadable. -/
theorem not_unreadable {waiting : List (List Byte)} {bytes rest : List Byte}
    (small : ∀ payload ∈ waiting, 4 + payload.length ≤ readBufMaxSize)
    (stream : bytes ++ rest = frames waiting) : ¬ Unreadable bytes := by
  rintro ⟨head, read, outside⟩
  have capacity : readBufMaxSize = 102400 := rfl
  obtain ⟨payload, member, size⟩ := head_of_frames small stream read
  have bounded := small payload member
  omega

/-- The beginning of a frame leaves room in the read buffer. -/
theorem Incomplete.length_lt {waiting : List (List Byte)} {bytes rest : List Byte}
    (incomplete : Incomplete bytes)
    (small : ∀ payload ∈ waiting, 4 + payload.length ≤ readBufMaxSize)
    (stream : bytes ++ rest = frames waiting) : bytes.length < readBufMaxSize := by
  have capacity : readBufMaxSize = 102400 := rfl
  rcases incomplete with short | ⟨head, read, announced⟩
  · omega
  · obtain ⟨payload, member, size⟩ := head_of_frames small stream read
    have bounded := small payload member
    omega

/-- Once a stream of frames with something in them has arrived, nothing of it waits. -/
theorem waiting_eq_nil {waiting : List (List Byte)} {bytes : List Byte}
    (small : ∀ payload ∈ waiting, 4 + payload.length ≤ readBufMaxSize)
    (some_bytes : ∀ payload ∈ waiting, payload ≠ [])
    (stream : undecided bytes = frames waiting) : waiting = [] := by
  match waiting with
  | [] => rfl
  | payload :: others =>
    have more := List.length_pos_of_ne_nil (some_bytes payload List.mem_cons_self)
    have first := @nextPackage_frame payload (frames others) (small payload List.mem_cons_self)
      (by rw [List.length_append, length_frame]; omega)
    have nothing : nextPackage (undecided bytes) = none := packageCutter.next_rest bytes
    rw [stream, frames, List.flatMap_cons] at nothing
    cases nothing.symm.trans first

/-! ## The loop of the read callbacks -/

/-- The head of the frame that starts at an offset. -/
theorem readInt_drop {data : List Byte} {offset : Nat} (long : offset + 4 ≤ data.length) :
    readInt (data.drop offset) 0 = readInt data offset := by
  have within := @readInt_within (data.take offset) (data.drop offset) [] 0 (Int.le_refl 0)
    (by rw [List.length_drop]; omega)
  rw [List.append_nil, List.take_append_drop, Int.add_zero, List.length_take,
    Nat.min_eq_left (by omega)] at within
  exact within.symm

/-- How a run of the loop ended, and what was in front of it. -/
def EndsBefore (data : List Byte) (exit : LoopExit) (rest : List Byte) : Prop :=
  (∃ place : Nat, exit = .returned place ∧ place ≤ data.length ∧ data.drop place = rest ∧
      Incomplete rest) ∨
    ((∀ offset, exit ≠ .returned offset) ∧ Unreadable rest)

/-- In a read buffer, the loop delivers the packages of what it holds. -/
theorem packageLoop_packages {data : List Byte} {passes offset : Nat}
    (small : data.length ≤ readBufMaxSize) (inside : offset ≤ data.length)
    (enough : data.length - offset < passes) :
    (packageLoop data passes offset).deliveries.map Delivery.bytes =
        packages (data.drop offset) ∧
      EndsBefore data (packageLoop data passes offset).exit (undecided (data.drop offset)) := by
  have capacity : readBufMaxSize = 102400 := rfl
  induction passes generalizing offset with
  | zero => omega
  | succ passes inductionHypothesis =>
    have length : (data.drop offset).length = data.length - offset := List.length_drop
    -- The plain reader stops where the loop stops.
    have stops : ∀ {run : LoopRun}, nextPackage (data.drop offset) = none →
        run.deliveries = [] → EndsBefore data run.exit (data.drop offset) →
        run.deliveries.map Delivery.bytes = packages (data.drop offset) ∧
          EndsBefore data run.exit (undecided (data.drop offset)) := by
      intro run nothing none ended
      have cut : packageCutter.cut (data.drop offset) = ([], data.drop offset) :=
        Cutter.cut_of_none nothing
      rw [packages, undecided, cut, none]
      exact ⟨rfl, ended⟩
    by_cases short : data.length ≤ 4 + offset
    · rw [packageLoop_of_short short (by omega) inside]
      refine stops (if_neg (by omega)) rfl (.inl ⟨offset, rfl, inside, rfl, .inl (by omega)⟩)
    have long : 4 + offset < data.length := by omega
    obtain ⟨head, read⟩ := exists_head long
    have readHere : readInt (data.drop offset) 0 = some head := by
      rw [readInt_drop (by omega), read]
    have lower := BitVec.le_toInt head
    have upper := @BitVec.toInt_lt _ head
    rw [packageLoop_of_head long (by omega) read]
    by_cases present : 0 ≤ head.toInt ∧ 4 + head.toInt ≤ (data.drop offset).length
    · have sum : int32 (offset + 4 + head.toInt) = offset + 4 + head.toInt := by
        apply int32_eq_self <;> omega
      have found : packageCutter.next (data.drop offset) =
          some (((data.drop offset).drop 4).take head.toInt.toNat,
            (data.drop offset).drop (4 + head.toInt.toNat)) :=
        nextPackage_eq_some_iff.mpr
          ⟨by omega, head, readHere, present.1, present.2, rfl, rfl⟩
      have cut := Cutter.cut_of_some found
      rw [List.drop_drop, List.drop_drop, ← Nat.add_assoc] at cut
      have continued := @inductionHypothesis (offset + 4 + head.toInt.toNat) (by omega) (by omega)
      rw [sum, if_neg (by omega), if_neg (by omega), if_pos (by omega)]
      rw [packages, undecided, cut]
      exact ⟨congrArg _ continued.1, continued.2⟩
    · have nothing : nextPackage (data.drop offset) = none := by
        rw [nextPackage, if_pos (by omega), readHere, Option.bind_some, if_neg present]
      by_cases negative : head.toInt < 0
      · have sum : int32 (offset + 4 + head.toInt) = offset + 4 + head.toInt := by
          apply int32_eq_self <;> omega
        rw [sum, if_neg (by omega), if_pos negative]
        exact stops nothing rfl
          (.inr ⟨fun _ => LoopExit.noConfusion, head, readHere, .inl negative⟩)
      by_cases wrapped : 2 ^ 31 ≤ offset + 4 + head.toInt
      · have sum : int32 (offset + 4 + head.toInt) = offset + 4 + head.toInt - 2 ^ 32 :=
          int32_eq_sub wrapped (by omega)
        rw [sum, if_neg (by omega), if_neg negative, if_neg (by omega)]
        exact stops nothing rfl
          (.inr ⟨fun _ => LoopExit.noConfusion, head, readHere, .inr (by omega)⟩)
      · have sum : int32 (offset + 4 + head.toInt) = offset + 4 + head.toInt := by
          apply int32_eq_self <;> omega
        rw [sum, if_pos (by omega)]
        exact stops nothing rfl
          (.inl ⟨offset, rfl, inside, rfl, .inr ⟨head, readHere, by omega⟩⟩)

/-! ## Runs -/

/-- A connection has delivered the packages of what it has received, and its buffer holds the
rest, the beginning of a frame; only an unreadable head breaks it. -/
structure Parsed {σ : Type} (bytes : List Byte) (session : Session σ) : Prop where
  delivered : session.delivered = packages bytes
  kept : session.status ≠ .broken →
    session.buffer.content = undecided bytes ∧ Incomplete (undecided bytes)
  unreadable : session.status = .broken → Unreadable (undecided bytes)

section Runs

variable {σ : Type} {callback : ReadCallback σ} {session next : Session σ}

/-- However the callback ends, its deliveries count. -/
theorem Session.delivered_receive (chunk : List Byte) (fits : chunk.length ≤ session.buffer.room) :
    (session.receive callback chunk fits).delivered = session.delivered ++
      (callback session.owner (session.buffer.store chunk fits).content).1.deliveries.map
        Delivery.bytes := by
  simp only [Session.receive]
  split
  · split
    · split
      · rfl
      · rfl
    · rfl
  · rfl

/-- A chunk does not close the connection. -/
theorem Session.status_receive (chunk : List Byte) (fits : chunk.length ≤ session.buffer.room) :
    (session.receive callback chunk fits).status = .receiving ∨
      (session.receive callback chunk fits).status = .broken := by
  simp only [Session.receive]
  split
  · split
    · split
      · exact .inl rfl
      · exact .inr rfl
    · exact .inl rfl
  · exact .inr rfl

/-- A callback that does not return breaks the connection. -/
theorem Session.receive_of_not_returned {chunk : List Byte}
    {fits : chunk.length ≤ session.buffer.room}
    (ended : ∀ offset, (callback session.owner (session.buffer.store chunk fits).content).1.exit ≠
      .returned offset) : (session.receive callback chunk fits).status = .broken := by
  simp only [Session.receive]

/-- One more chunk, of any bytes. -/
theorem Parsed.receive {bytes chunk : List Byte} {fits : chunk.length ≤ session.buffer.room}
    (loops : ∀ owner data, (callback owner data).1 = packageLoop data (data.length + 1) 0)
    (receiving : session.status = .receiving) (parsed : Parsed bytes session) :
    Parsed (bytes ++ chunk) (session.receive callback chunk fits) := by
  obtain ⟨kept, _⟩ := parsed.kept (by rw [receiving]; decide)
  have stored := session.buffer.content_store chunk fits
  rw [kept] at stored
  have size := (session.buffer.store chunk fits).length_content
  have run := loops session.owner (session.buffer.store chunk fits).content
  rw [stored] at size run
  obtain ⟨looped, ended⟩ := @packageLoop_packages (undecided bytes ++ chunk)
    ((undecided bytes ++ chunk).length + 1) 0
    (size ▸ (session.buffer.store chunk fits).inside) (Nat.zero_le _) (by omega)
  rw [Int.natCast_zero, List.drop_zero, ← run] at looped ended
  rw [← undecided_append] at ended
  have delivered := @Session.delivered_receive σ callback session chunk fits
  rw [stored, looped, parsed.delivered, ← packages_append] at delivered
  rcases ended with ⟨place, returned, inside, rest, incomplete⟩ | ⟨notReturned, unreadable⟩
  · obtain ⟨status, _, content⟩ := @Session.receive_of_returned σ callback session chunk fits
      place (by rw [stored]; exact returned) (by rw [← size]; exact inside)
    rw [stored] at content
    refine ⟨delivered, fun _ => ⟨by rw [content, rest], incomplete⟩, fun broken => ?_⟩
    rw [status] at broken
    cases broken
  · have status := @Session.receive_of_not_returned σ callback session chunk fits
      (by rw [stored]; exact notReturned)
    exact ⟨delivered, fun notBroken => absurd status notBroken, fun _ => unreadable⟩

/-- Every `recv` keeps this. -/
theorem Parsed.step {bytes : List Byte} {answer : RecvAnswer}
    (loops : ∀ owner data, (callback owner data).1 = packageLoop data (data.length + 1) 0)
    (parsed : Parsed bytes session) (stepped : recvStep callback session answer = some next) :
    Parsed (bytes ++ answer.bytes) next := by
  have closing : ∀ {closed : Session σ}, session.status = .receiving →
      (if session.status = .receiving then some { session with status := RecvStatus.closed }
        else none) = some closed → Parsed (bytes ++ []) closed := by
    intro closed receiving built
    obtain ⟨_, built⟩ := Option.ite_none_right_eq_some.mp built
    obtain rfl := Option.some.inj built
    rw [List.append_nil]
    exact ⟨parsed.delivered, fun _ => parsed.kept (by rw [receiving]; decide), nofun⟩
  cases answer with
  | received chunk =>
      obtain ⟨receiving, _, fits, rfl⟩ := recvStep_received_iff.mp stepped
      exact parsed.receive loops receiving
  | wouldBlock =>
      obtain ⟨_, built⟩ := Option.ite_none_right_eq_some.mp stepped
      obtain rfl := Option.some.inj built
      simpa [RecvAnswer.bytes] using parsed
  | peerClosed => exact closing (Option.ite_none_right_eq_some.mp stepped).1 stepped
  | failed => exact closing (Option.ite_none_right_eq_some.mp stepped).1 stepped

/-- A session that goes on where another one has delivered something. -/
def Session.behind (earlier : List (List Byte)) (session : Session σ) : Session σ :=
  { session with delivered := earlier ++ session.delivered }

/-- What has been delivered before makes no difference to the next `recv`. -/
theorem recvStep_behind {earlier : List (List Byte)} {answer : RecvAnswer}
    (stepped : recvStep callback session answer = some next) :
    recvStep callback (session.behind earlier) answer = some (next.behind earlier) := by
  cases answer with
  | received chunk =>
      obtain ⟨receiving, someBytes, fits, rfl⟩ := recvStep_received_iff.mp stepped
      refine recvStep_received_iff.mpr ⟨receiving, someBytes, fits, ?_⟩
      simp only [Session.behind, Session.receive, List.append_assoc]
      cases (callback session.owner (session.buffer.store chunk fits).content).1.exit with
      | returned eatCount =>
          by_cases positive : 0 < eatCount
          · by_cases held : eatCount.toNat ≤ (session.buffer.store chunk fits).curReadBufSize
            · simp only [positive, held, if_true, dif_pos]
            · simp only [positive, held, if_true, dif_neg, not_false_eq_true]
          · simp only [positive, if_false]
      | _ => rfl
  | _ =>
      obtain ⟨receiving, built⟩ := Option.ite_none_right_eq_some.mp stepped
      obtain rfl := Option.some.inj built
      exact if_pos receiving

/-- A connection after any run of `recv`s. -/
theorem parsed_of_runs {condition : Session σ → RecvAnswer → Session σ → Prop}
    (loops : ∀ owner data, (callback owner data).1 = packageLoop data (data.length + 1) 0)
    {owner : σ} {memory : SizedBytes readBufMaxSize} {answers : List RecvAnswer}
    (run : (recvSystem callback owner memory).Runs condition answers session) :
    Parsed (arrived answers) session := by
  induction run with
  | initial valid =>
      cases valid
      have nothing : packageCutter.cut [] = ([], []) := Cutter.cut_of_none rfl
      refine ⟨?_, fun _ => ⟨?_, .inl ?_⟩, nofun⟩
      · rw [arrived, List.flatMap_nil, packages, nothing]
      · rw [arrived, List.flatMap_nil, undecided, nothing]
        rfl
      · rw [arrived, List.flatMap_nil, undecided, nothing]
        exact Nat.zero_le 4
  | @step answers session answer next _ transition _ inductionHypothesis =>
      have split : arrived (answers ++ [answer]) = arrived answers ++ answer.bytes := by
        simp [arrived]
      rw [split]
      exact inductionHypothesis.step loops transition

end Runs

/-! ## The counters of the server -/

/-- The counters have gone up by so many packages and by the bytes of their frames. -/
structure Counted (before : RecvStatistics) (delivered : List (List Byte)) (now : RecvStatistics) :
    Prop where
  recvPackageCount :
    now.recvPackageCount % 2 ^ 64 = (before.recvPackageCount + delivered.length) % 2 ^ 64
  recvByteCount :
    now.recvByteCount % 2 ^ 64 = (before.recvByteCount + (frames delivered).length) % 2 ^ 64

theorem Counted.refl (statistics : RecvStatistics) : Counted statistics [] statistics := ⟨rfl, rfl⟩

/-- The packages of one more run of the loop. -/
theorem Counted.deliveries {before now : RecvStatistics} {delivered : List (List Byte)}
    (counted : Counted before delivered now) (deliveries : List Delivery) :
    Counted before (delivered ++ deliveries.map Delivery.bytes)
      (deliveries.foldl RecvStatistics.count now) := by
  induction deliveries generalizing now delivered with
  | nil => simpa using counted
  | cons delivery deliveries inductionHypothesis =>
      have first : Counted before (delivered ++ [delivery.bytes]) (now.count delivery) := by
        obtain ⟨packageCount, byteCount⟩ := counted
        have headSize : socketHeadSize.toNat = 4 := rfl
        constructor
        · simp only [RecvStatistics.count, List.length_append, List.length_singleton]
          omega
        · have grown : (frames (delivered ++ [delivery.bytes])).length =
              (frames delivered).length + (4 + delivery.bytes.length) := by
            simp [frames]
          simp only [RecvStatistics.count]
          omega
      have rest := inductionHypothesis first
      rwa [List.append_assoc] at rest

/-- One more answer of `recv`. -/
theorem Counted.step {before : RecvStatistics} {session next : Session RecvStatistics}
    {answer : RecvAnswer} (counted : Counted before session.delivered session.owner)
    (stepped : recvStep client4ReadCallback session answer = some next) :
    Counted before next.delivered next.owner := by
  cases answer with
  | received chunk =>
      obtain ⟨_, _, fits, rfl⟩ := recvStep_received_iff.mp stepped
      have more := counted.deliveries (client4ReadCallback session.owner
        (session.buffer.store chunk fits).content).1.deliveries
      simp only [Session.receive]
      split
      · split
        · split
          · exact more
          · exact more
        · exact more
      · exact more
  | _ =>
      obtain ⟨_, built⟩ := Option.ite_none_right_eq_some.mp stepped
      obtain rfl := Option.some.inj built
      exact counted

/-- What has been counted is counted on. -/
theorem Counted.trans {before between now : RecvStatistics} {delivered more : List (List Byte)}
    (counted : Counted before delivered between) (countedMore : Counted between more now) :
    Counted before (delivered ++ more) now where
  recvPackageCount := by
    have first := counted.recvPackageCount
    have second := countedMore.recvPackageCount
    rw [List.length_append]
    omega
  recvByteCount := by
    have first := counted.recvByteCount
    have second := countedMore.recvByteCount
    rw [frames_append, List.length_append]
    omega

/-- The order of the packages does not matter to the counters. -/
theorem Counted.perm {before now : RecvStatistics} {delivered others : List (List Byte)}
    (counted : Counted before delivered now) (perm : delivered.Perm others) :
    Counted before others now where
  recvPackageCount := by rw [counted.recvPackageCount, perm.length_eq]
  recvByteCount := by
    rw [counted.recvByteCount, frames, frames, (perm.flatMap_right frame).length_eq]

/-- The server counts every package it delivers, once. -/
theorem counted_of_runs {condition : Session RecvStatistics → RecvAnswer → Session RecvStatistics → Prop}
    {statistics : RecvStatistics} {memory : SizedBytes readBufMaxSize} {answers : List RecvAnswer}
    {session : Session RecvStatistics}
    (run : (recvSystem client4ReadCallback statistics memory).Runs condition answers session) :
    Counted statistics session.delivered session.owner := by
  induction run with
  | initial valid =>
      cases valid
      exact .refl statistics
  | step _ transition _ counted => exact counted.step transition

/-- For every stream, of any bytes, and however `recv` cuts it: what server and client have
delivered are the packages of the stream, read at once and with unbounded numbers, and their
buffers hold what is left; a connection breaks only at an unreadable head. The server has
counted each package once. -/
theorem received_eq_packages (memory : SizedBytes readBufMaxSize) (answers : List RecvAnswer) :
    (∀ statistics session,
      (recvSystem client4ReadCallback statistics memory).Runs (fun _ _ _ => True) answers session →
        Parsed (arrived answers) session ∧
          Counted statistics (packages (arrived answers)) session.owner) ∧
    ∀ session, (recvSystem clientCallback () memory).Runs (fun _ _ _ => True) answers session →
      Parsed (arrived answers) session := by
  constructor
  · intro statistics session run
    have parsed := parsed_of_runs (fun _ _ => rfl) run
    exact ⟨parsed, parsed.delivered ▸ counted_of_runs run⟩
  · intro session run
    exact parsed_of_runs (fun _ _ => rfl) run

/-- A frame of one byte and the first byte of the next head. -/
theorem oneAndABit_received :
    ∃ session,
      (recvSystem client4ReadCallback ⟨0, 0⟩ zeroMemory).Runs (fun _ _ _ => True)
          [.received [1, 0, 0, 0, 7, 9]] session ∧
        session.delivered = [[7]] ∧ session.owner.recvByteCount % 2 ^ 64 = 5 := by
  have fits : [(1 : Byte), 0, 0, 0, 7, 9].length ≤ (ReadBuffer.fresh zeroMemory).room := by decide
  have step := (@recvStep_received_iff RecvStatistics client4ReadCallback
    ⟨⟨0, 0⟩, .fresh zeroMemory, [], .receiving⟩ _ _).mpr ⟨rfl, by decide, fits, rfl⟩
  have run : (recvSystem client4ReadCallback ⟨0, 0⟩ zeroMemory).Runs (fun _ _ _ => True)
      ([] ++ [.received [1, 0, 0, 0, 7, 9]]) _ := .step (.initial rfl) step trivial
  have first : packageCutter.next [1, 0, 0, 0, 7, 9] = some ([7], [9]) := by decide
  have cut : packages [1, 0, 0, 0, 7, 9] = [[7]] := by
    rw [packages, Cutter.cut_of_some first, Cutter.cut_of_none (by decide)]
  obtain ⟨parsed, counted⟩ := (received_eq_packages zeroMemory _).1 _ _ run
  have bytes : arrived ([] ++ [.received [1, 0, 0, 0, 7, 9]]) = [1, 0, 0, 0, 7, 9] := rfl
  rw [bytes] at parsed counted
  refine ⟨_, run, parsed.delivered.trans cut, ?_⟩
  rw [counted.recvByteCount, cut]
  rfl

end SocketMessage.Frame
