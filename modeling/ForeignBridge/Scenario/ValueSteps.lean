import ForeignBridge.Atomic
import ForeignBridge.HandleTable
import ForeignBridge.Scenario.Answer
import ForeignBridge.Scenario.ShapeForm
import ForeignBridge.Value.Hash

/-!
Scenarios of parts that need no world: codecs, streams, errors, cells and tables of handles.
-/

namespace ForeignBridge.ValueSteps

open Answer ValueForm

def shapeOf (n : Vocabulary) (v : Value) : Shape := ShapeForm.read n ShapeForm.noOwnShapes v

/-! Codec -/

def describe (s : Shape) : Entries :=
  [("type_name", txt s.typeName), ("min_width", count s.minWidth), ("repr", txt s.quoted)]

def codecStep (n : Vocabulary) (s : Shape) (step : Value) : Except Failure Value := do
  let v := read n (step.field "value")
  match doing step with
  | "describe" => return obj (describe s)
  | "encode" => return obj [("hex", txt (Hex.encode (← s.encode v)))]
  | "decode" => return plain (← s.decode (bytes (step.field "hex")))
  | "check" => do s.check v; return .null
  | "lower" => return plain (← s.lower v)
  | "lift" => return plain (← s.lift v)
  | "roundtrip" => return plain (← s.decode (← s.encode v))
  | "handles" => .bool <$> s.handles v
  | _ => return .null

def codecOp (input : Value) : Value :=
  let n := vocabulary input
  results ((steps input).map fun step => resultOnceRead n step (codecStep n (shapeOf n (input.field "type")) step))

def fromDataclassOp (input : Value) : Value :=
  let n := vocabulary input
  let shapes := (input.field "converters").asPairs.map fun e => (e.1, shapeOf n e.2)
  let isRecord := match input.field? "dataclass" with | some (.bool b) => b | _ => true
  let fields := (input.itemsField "fields").map Value.asText
  match Shape.ofRecordClass (input.textField "name") isRecord fields shapes with
  | .error f => obj (failureEntries f)
  | .ok s =>
    let listed := match s with | .record _ _ fs => fs.toList | _ => []
    obj (describe s ++ [("fields", arr (listed.map fun f => names [f.1, f.2.typeName]))])

/-! Streams -/

structure Streams where
  written : Bytes
  reader : Reader

def reading (x : Reading Value) : StateM Streams Value := do
  let st ← get
  match x st.reader with
  | .ok v r => set { st with reader := r }; return resultOf (.ok v)
  | .error f r => set { st with reader := r }; return resultOf (.error f)

def streamStep (n : Vocabulary) (step : Value) : StateM Streams Value := do
  if let some stop := unreadable? n step then return obj (stopEntries stop)
  let append (bs : Bytes) (failure : Option Failure) : StateM Streams Value := do
    modify fun st => { st with written := st.written ++ bs }
    return resultOf (match failure with | none => .ok .null | some f => .error f)
  let shape := shapeOf n (step.field "type")
  let layout := (ShapeForm.layout? (step.textField "layout")).getD .i8
  let ok (v : Value) : StateM Streams Value := return resultOf (.ok v)
  match doing step with
  | "write" => append (bytes (step.field "hex")) none
  | "pack" =>
    match layout.packAll ((step.itemsField "values").map (read n)) with
    | .ok bs => append bs none
    | .error f => append [] (some f)
  | "write_value" =>
    let script := shape.write (read n (step.field "value"))
    append script.leadingBytes script.failure
  | "writer_len" => ok (count (← get).written.length)
  | "getvalue" => ok (ofBytes (← get).written)
  | "open" =>
    modify fun st =>
      { st with reader := Reader.ofBytes (((step.field? "hex").map bytes).getD st.written) }
    ok .null
  | "read" => reading do return ofBytes (← Reading.take (integerField step "size" 0))
  | "unpack" => reading do return plain (.tuple [← Reading.scalar layout])
  | "unpack_one" => reading do return plain (← Reading.scalar layout)
  | "read_value" => reading do return plain (← shape.read .none)
  | "position" => ok (.int (← get).reader.position)
  | "remaining" => reading do return .int (← Reading.remaining)
  | "release" => reading do
      modify fun r => { r with released := true }
      return .null
  | _ => return .null

def streamOp (input : Value) : Value :=
  results (((steps input).mapM (streamStep (vocabulary input))).run ⟨[], .ofBytes []⟩).1

/-! Limits, errors, cells, tables -/

def checkStep (step : Value) : Value :=
  let t := step.textField "type_name"
  let size (name : String) : Int := integerField step name 0
  resultOf <|
    match doing step with
    | "check_length" => (checkLength (size "length") t).map fun _ => .null
    | _ => (Read.countFault? t (size "count") (size "width") (size "remaining")).elim (.ok .null) .error

def errorsStep (n : Vocabulary) (step : Value) : Value :=
  match doing step with
  | "construct" =>
    match ErrorClass.find? (step.textField "kind") with
    | none => .null
    | some c => resultOnceRead n step do
      let made ← c.make ((step.itemsField "args").map (read n))
      return obj [("message", txt made.message), ("bases", names made.classes),
        ("attributes", obj (made.attributes.map fun a => (a.1, plain a.2)))]
  | _ =>
    let (a, b) := match read n (arr [step.field "a", step.field "b"]) with | .list [a, b] => (a, b) | _ => (.null, .null)
    resultOnceRead n step do
      let equal ← Value.checkedSame a b
      let sameHash ← Value.sameHash a b
      for v in [a, b] do Failure.ofShowing v
      return obj [("equal", .bool equal), ("same_hash", .bool sameHash),
        ("text", names [a.shown, b.shown]), ("repr", names [a.quoted, b.quoted])]

def atomicStep (step : Value) : StateM (AtomicNumber × AtomicFlag) Value := do
  let (cell, flag) ← get
  let ok (v : Value) (after : AtomicNumber × AtomicFlag) : StateM (AtomicNumber × AtomicFlag) Value := do
    set after
    return resultOf (.ok v)
  match doing step with
  | "load" => ok (num cell.value) (cell, flag)
  | "cas" =>
    let (done, cell) :=
      cell.compareAndSwap (integerField step "expected" 0) (integerField step "new" 0)
    ok (.bool done) (cell, flag)
  | "fetch_sub" =>
    let (before, cell) := cell.fetchSub (integerField step "amount" 1)
    ok (num before) (cell, flag)
  | "repr" => ok (txt cell.quoted) (cell, flag)
  | "is_set" => ok (.bool flag.isSet) (cell, flag)
  | "test_and_set" =>
    let (first, flag) := flag.testAndSet
    ok (.bool first) (cell, flag)
  | _ => return .null

def atomicOp (input : Value) : Value :=
  results (((steps input).mapM atomicStep).run (⟨integerField input "value" 0⟩, ⟨false⟩)).1

def tableStep (n : Vocabulary) (step : Value) : StateM (HandleTable Value) Value := do
  if let some stop := unreadable? n step then return obj (stopEntries stop)
  let t ← get
  let handle := integerField step "handle" 0
  let answer (r : Except Failure Value) (t : HandleTable Value) : StateM (HandleTable Value) Value := do
    set t
    return resultOf r
  match doing step with
  | "insert" => let (r, t) := t.insert (read n (step.field "value")); answer (r.map num) t
  | "get" => answer ((t.get handle).map plain) t
  | "remove" => let (r, t) := t.remove handle; answer (r.map plain) t
  | "contains" => answer (.ok (.bool (t.contains handle))) t
  | "handles" => answer (.ok (arr (t.handles.map num))) t
  | "clear" => let (dropped, t) := t.clear; answer (.ok (count dropped)) t
  | "len" => answer (.ok (count t.size)) t
  | _ => return .null

def tableOp (input : Value) : Value :=
  let name := ((input.field "name").asText?).getD "callback"
  results (((steps input).mapM (tableStep (vocabulary input))).run
    (.new name (integerField input "start" 1))).1

end ForeignBridge.ValueSteps
