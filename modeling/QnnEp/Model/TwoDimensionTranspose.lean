import QnnEp.Model.Wrapper

namespace QnnEp.TwoDimensionTranspose
open List Scatter

section
variable (elementSize rows cols : Nat) (input : List UInt8)

def tileSize : Nat := 32

def memcpy (output : List UInt8) (dst src : Nat) : List UInt8 :=
  (List.range elementSize).foldl
    (fun output b => output.set (dst + b) (input.getD (src + b) 0)) output

def indices (start stop : Nat) : List Nat := List.range' start (stop - start)

def tileStarts (count : Nat) : List Nat :=
  List.range' 0 ((count + tileSize - 1) / tileSize) tileSize

def copyColumn (rowStart rowEnd : Nat) (output : List UInt8) (col : Nat) : List UInt8 :=
  ((indices rowStart rowEnd).foldl
    (fun (state : List UInt8 × Nat) row =>
      let srcByteIndex := (row * cols + col) * elementSize
      (memcpy elementSize input state.1 state.2 srcByteIndex,state.2 + elementSize))
    (output,(col * rows + rowStart) * elementSize)).1

def transposeTiled2D (output : List UInt8) : List UInt8 :=
  (tileStarts rows).foldl
    (fun output rowStart =>
      let rowEnd := min (rowStart + tileSize) rows
      (tileStarts cols).foldl
        (fun output colStart =>
          let colEnd := min (colStart + tileSize) cols
          (indices colStart colEnd).foldl
            (copyColumn elementSize rows cols input rowStart rowEnd) output)
        output)
    output

def transposeUntiled (output : List UInt8) : List UInt8 :=
  (List.range rows).foldl
    (fun output row =>
      (List.range cols).foldl
        (fun output col =>
          let srcByteIndex := (row * cols + col) * elementSize
          let dstByteIndex := (col * rows + row) * elementSize
          memcpy elementSize input output dstByteIndex srcByteIndex)
        output)
    output

def twoDimensionTranspose (rows cols elemByteSize : Nat) (input output : List UInt8) :
    Except String (List UInt8) :=
  let numBytes := rows * cols * elemByteSize
  if elemByteSize = 0 then .error "Expected a non-zero element byte size"
  else if input.length = numBytes ∧ output.length = numBytes then
    match elemByteSize with
    | 1 => .ok (transposeTiled2D 1 rows cols input output)
    | 2 => .ok (transposeTiled2D 2 rows cols input output)
    | 4 => .ok (transposeTiled2D 4 rows cols input output)
    | 8 => .ok (transposeTiled2D 8 rows cols input output)
    | _ => .ok (transposeUntiled elemByteSize rows cols input output)
  else .error "Expected both transpose buffers to hold rows * cols * elem_byte_size bytes"

def entry (buffer : List UInt8) (k : Nat) : List UInt8 :=
  (buffer.drop (k * elementSize)).take elementSize

end

section
variable {rows cols : Nat}

def tileOrder (rows cols : Nat) : List (Nat × Nat) :=
  (tileStarts rows).flatMap fun rowStart =>
    (tileStarts cols).flatMap fun colStart =>
      (indices colStart (min (colStart + tileSize) cols)).flatMap fun col =>
        (indices rowStart (min (rowStart + tileSize) rows)).map fun row => (row,col)

theorem mem_indices {start stop i : Nat} : i ∈ indices start stop ↔ start ≤ i ∧ i < stop := by
  rw [indices,mem_range'_1]
  omega

theorem mem_tileStarts {count start : Nat} :
    start ∈ tileStarts count ↔ start < count ∧ start % tileSize = 0 := by
  simp only [tileStarts,mem_range',tileSize]
  constructor
  · rintro ⟨t,ht,rfl⟩
    omega
  · rintro ⟨hlt,hmod⟩
    exact ⟨start / 32,by omega,by omega⟩

theorem tile_of_index {count i : Nat} (hi : i < count) :
    ∃ start ∈ tileStarts count, i ∈ indices start (min (start + tileSize) count) := by
  refine ⟨i - i % tileSize,mem_tileStarts.mpr ?_,mem_indices.mpr ?_⟩
  · simp only [tileSize]
    omega
  · simp only [tileSize]
    omega

theorem mem_tileOrder (p : Nat × Nat) : p ∈ tileOrder rows cols ↔ p.1 < rows ∧ p.2 < cols := by
  simp only [tileOrder,mem_flatMap,mem_map]
  constructor
  · rintro ⟨rowStart,-,colStart,-,col,hcol,row,hrow,rfl⟩
    have hc := (mem_indices.mp hcol).2
    have hr := (mem_indices.mp hrow).2
    exact ⟨by omega,by omega⟩
  · rintro ⟨hr,hc⟩
    obtain ⟨rowStart,hrs,hrow⟩ := tile_of_index hr
    obtain ⟨colStart,hcs,hcol⟩ := tile_of_index hc
    exact ⟨rowStart,hrs,colStart,hcs,p.2,hcol,p.1,hrow,rfl⟩

theorem mem_rowMajor (p : Nat × Nat) :
    p ∈ List.range rows ×ˢ List.range cols ↔ p.1 < rows ∧ p.2 < cols := by
  rw [mem_product,mem_range,mem_range]

end

section
variable (elementSize rows cols : Nat) (input : List UInt8)

def copyEntries (ps : List (Nat × Nat)) (output : List UInt8) : List UInt8 :=
  scatterElements elementSize (fun p => p.2 * rows + p.1) (fun p => p.1 * cols + p.2) 0 input
    ps output

theorem copyEntries_eq_foldl (ps : List (Nat × Nat)) (output : List UInt8) :
    copyEntries elementSize rows cols input ps output =
      ps.foldl (fun output p => memcpy elementSize input output
        ((p.2 * rows + p.1) * elementSize) ((p.1 * cols + p.2) * elementSize)) output := by
  simp only [copyEntries,scatterElements,scatter,SProd.sprod,List.product,
    foldl_flatMap,foldl_map,memcpy]

theorem copyColumn_eq (rowStart rowEnd : Nat) (output : List UInt8) (col : Nat) :
    copyColumn elementSize rows cols input rowStart rowEnd output col =
      copyEntries elementSize rows cols input
        ((indices rowStart rowEnd).map fun row => (row,col)) output := by
  rw [copyEntries_eq_foldl,foldl_map,copyColumn,indices]
  generalize rowEnd - rowStart = count
  induction count generalizing rowStart output with
  | zero => rfl
  | succ count ih =>
    have hnext : (col * rows + rowStart) * elementSize + elementSize =
        (col * rows + (rowStart + 1)) * elementSize := by
      rw [← Nat.add_assoc,Nat.add_mul _ 1,Nat.one_mul]
    rw [range'_succ,foldl_cons,foldl_cons]
    simp only [hnext]
    exact ih (rowStart + 1) _

theorem transposeTiled2D_eq (output : List UInt8) :
    transposeTiled2D elementSize rows cols input output =
      copyEntries elementSize rows cols input (tileOrder rows cols) output := by
  have hcolumn (rowStart rowEnd : Nat) : copyColumn elementSize rows cols input rowStart rowEnd =
      fun output col => copyEntries elementSize rows cols input
        ((indices rowStart rowEnd).map fun row => (row,col)) output := by
    funext output col
    exact copyColumn_eq ..
  simp only [transposeTiled2D,hcolumn,copyEntries_eq_foldl,tileOrder,foldl_flatMap]

theorem transposeUntiled_eq (output : List UInt8) :
    transposeUntiled elementSize rows cols input output =
      copyEntries elementSize rows cols input (List.range rows ×ˢ List.range cols) output := by
  simp only [transposeUntiled,copyEntries_eq_foldl,SProd.sprod,List.product,foldl_flatMap,
    foldl_map]

end

section
variable {elementSize rows cols : Nat} {input output : List UInt8} {ps : List (Nat × Nat)}

@[simp] theorem length_copyEntries :
    (copyEntries elementSize rows cols input ps output).length = output.length :=
  length_scatterElements ..

theorem copyEntries_byte (hps : ∀ p, p ∈ ps ↔ p.1 < rows ∧ p.2 < cols)
    (hout : output.length = rows * cols * elementSize) {r c b : Nat} (hr : r < rows) (hc : c < cols)
    (hb : b < elementSize) :
    (copyEntries elementSize rows cols input ps output)[(c * rows + r) * elementSize + b]? =
      some (input.getD ((r * cols + c) * elementSize + b) 0) := by
  have hinj : Set.InjOn (fun p : Nat × Nat => p.2 * rows + p.1) {p | p ∈ ps} := by
    intro p hp q hq he
    obtain ⟨hcol,hrow⟩ := index_inj ((hps p).mp hp).1 ((hps q).mp hq).1 he
    exact Prod.ext hrow hcol
  have hlt : (c * rows + r) * elementSize + b < output.length := by
    rw [hout,Nat.mul_comm rows]
    exact index_lt (index_lt hc hr) hb
  exact scatterElements_written elementSize _ _ 0 input hinj ((hps (r,c)).mpr ⟨hr,hc⟩) hb hlt

theorem byte_position {k : Nat} (hk : k < rows * cols * elementSize) :
    ∃ r c b, r < rows ∧ c < cols ∧ b < elementSize ∧ k = (c * rows + r) * elementSize + b := by
  have hsize : 0 < elementSize := Nat.pos_of_ne_zero fun h => by simp [h] at hk
  have hrows : 0 < rows := Nat.pos_of_ne_zero fun h => by simp [h] at hk
  have hentry : k / elementSize < cols * rows := by
    rw [Nat.div_lt_iff_lt_mul hsize,Nat.mul_comm cols]
    exact hk
  refine ⟨k / elementSize % rows,k / elementSize / rows,k % elementSize,Nat.mod_lt _ hrows,
    (Nat.div_lt_iff_lt_mul hrows).mpr hentry,Nat.mod_lt _ hsize,?_⟩
  rw [Nat.div_add_mod',Nat.div_add_mod']

theorem copyEntries_order {qs : List (Nat × Nat)} (hps : ∀ p, p ∈ ps ↔ p.1 < rows ∧ p.2 < cols)
    (hqs : ∀ p, p ∈ qs ↔ p.1 < rows ∧ p.2 < cols)
    (hout : output.length = rows * cols * elementSize) :
    copyEntries elementSize rows cols input ps output =
      copyEntries elementSize rows cols input qs output := by
  apply ext_getElem?
  intro k
  by_cases hk : k < rows * cols * elementSize
  · obtain ⟨r,c,b,hr,hc,hb,rfl⟩ := byte_position hk
    rw [copyEntries_byte hps hout hr hc hb,copyEntries_byte hqs hout hr hc hb]
  · rw [List.getElem?_eq_none (by simp only [length_copyEntries]; omega),
      List.getElem?_eq_none (by simp only [length_copyEntries]; omega)]

theorem tiled_eq_untiled (hout : output.length = rows * cols * elementSize) :
    transposeTiled2D elementSize rows cols input output =
      transposeUntiled elementSize rows cols input output := by
  rw [transposeTiled2D_eq,transposeUntiled_eq]
  exact copyEntries_order mem_tileOrder mem_rowMajor hout

theorem getElem?_entry {buffer : List UInt8} {k b : Nat} :
    (entry elementSize buffer k)[b]? =
      if b < elementSize then buffer[k * elementSize + b]? else none := by
  rw [entry,List.getElem?_take,List.getElem?_drop]

theorem untiled_entry (hin : input.length = rows * cols * elementSize)
    (hout : output.length = rows * cols * elementSize) {r c : Nat} (hr : r < rows) (hc : c < cols) :
    entry elementSize (transposeUntiled elementSize rows cols input output) (c * rows + r) =
      entry elementSize input (r * cols + c) := by
  apply ext_getElem?
  intro b
  rw [getElem?_entry,getElem?_entry]
  by_cases hb : b < elementSize
  · have hlt : (r * cols + c) * elementSize + b < input.length := by
      rw [hin]
      exact index_lt (index_lt hr hc) hb
    rw [if_pos hb,if_pos hb,transposeUntiled_eq,copyEntries_byte mem_rowMajor hout hr hc hb,
      getD_eq_getElem _ _ hlt,List.getElem?_eq_getElem hlt]
  · rw [if_neg hb,if_neg hb]

theorem twoDimensionTranspose_eq (hsize : elementSize ≠ 0)
    (hin : input.length = rows * cols * elementSize)
    (hout : output.length = rows * cols * elementSize) :
    twoDimensionTranspose rows cols elementSize input output =
      .ok (transposeUntiled elementSize rows cols input output) := by
  unfold twoDimensionTranspose
  simp only
  rw [if_neg hsize,if_pos ⟨hin,hout⟩]
  split
  · rw [tiled_eq_untiled hout]
  · rw [tiled_eq_untiled hout]
  · rw [tiled_eq_untiled hout]
  · rw [tiled_eq_untiled hout]
  · rfl

theorem length_transposeUntiled :
    (transposeUntiled elementSize rows cols input output).length = output.length := by
  rw [transposeUntiled_eq,length_copyEntries]

theorem transpose_paths_agree (rows cols elemByteSize : Nat) (input output : List UInt8)
    (hsize : elemByteSize ≠ 0) (hin : input.length = rows * cols * elemByteSize)
    (hout : output.length = rows * cols * elemByteSize) :
    transposeTiled2D elemByteSize rows cols input output =
        transposeUntiled elemByteSize rows cols input output ∧
      ∃ result, twoDimensionTranspose rows cols elemByteSize input output = .ok result ∧
        result = transposeUntiled elemByteSize rows cols input output ∧
        result.length = input.length ∧
        ∀ i < rows, ∀ j < cols,
          entry elemByteSize result (j * rows + i) = entry elemByteSize input (i * cols + j) :=
  ⟨tiled_eq_untiled hout,_,twoDimensionTranspose_eq hsize hin hout,rfl,
    length_transposeUntiled.trans (hout.trans hin.symm),fun _ hi _ hj => untiled_entry hin hout hi hj⟩

def countedBytes : List UInt8 := (List.range 132).map UInt8.ofNat

theorem transpose_paths_agree_past_tile :
    ∃ result, twoDimensionTranspose 33 2 2 countedBytes (List.replicate 132 0) = .ok result ∧
      ∀ i < 33, ∀ j < 2, entry 2 result (j * 33 + i) = entry 2 countedBytes (i * 2 + j) := by
  obtain ⟨-,result,hresult,-,-,hentry⟩ := transpose_paths_agree 33 2 2 countedBytes
    (List.replicate 132 0) (by decide) (by simp [countedBytes]) (by simp)
  exact ⟨result,hresult,hentry⟩

theorem twoDimensionTranspose_twice (rows cols elemByteSize : Nat) (input output output' : List UInt8)
    (hsize : elemByteSize ≠ 0) (hin : input.length = rows * cols * elemByteSize)
    (hout : output.length = rows * cols * elemByteSize) (hout' : output'.length = output.length) :
    (do
      let result ← twoDimensionTranspose rows cols elemByteSize input output
      twoDimensionTranspose cols rows elemByteSize result output') = .ok input := by
  have hswap : rows * cols * elemByteSize = cols * rows * elemByteSize := by rw [Nat.mul_comm rows]
  have hback := (hout'.trans hout).trans hswap
  rw [twoDimensionTranspose_eq hsize hin hout]
  refine (twoDimensionTranspose_eq hsize (length_transposeUntiled.trans (hout.trans hswap)) hback).trans
    (congrArg _ (ext_getElem? fun k => ?_))
  by_cases hk : k < cols * rows * elemByteSize
  · obtain ⟨c,r,b,hc,hr,hb,rfl⟩ := byte_position hk
    have hlt : (r * cols + c) * elemByteSize + b < input.length := by
      rw [hin,hswap]
      exact hk
    rw [transposeUntiled_eq,copyEntries_byte mem_rowMajor hback hc hr hb,getD_eq_getElem?_getD,
      transposeUntiled_eq,copyEntries_byte mem_rowMajor hout hr hc hb,Option.getD_some,
      getD_eq_getElem _ _ hlt,List.getElem?_eq_getElem hlt]
  · rw [List.getElem?_eq_none (by rw [length_transposeUntiled]; omega),
      List.getElem?_eq_none (by omega)]

theorem twoDimensionTranspose_twice_pair : (do
    let result ← twoDimensionTranspose 1 2 2 [1,2,3,4] [0,0,0,0]
    twoDimensionTranspose 2 1 2 result [0,0,0,0]) = .ok [1,2,3,4] :=
  twoDimensionTranspose_twice 1 2 2 _ _ _ (by decide) rfl rfl rfl

end

end QnnEp.TwoDimensionTranspose
