/-!
# Sample programs

Two programs in assembly that show the instructions at work.
-/

namespace Ram.Sample

/-- Multiplies register 1 by register 2 and adds the product to the first cell of the tape,
one addition at a time. -/
def multiply : String :=
"
; Multiplies r1 by r2 into tape[0] by repeated addition.
        load r2
        store r3        ; r3 counts down
loop:   load r3
        jzero done
        sub 1
        store r3
        read 0
        add r1
        write 0
        jump loop
done:   ; fall through to the implicit halt
"

/-- Doubles the first cells of the tape, as many as register 1 says, with the address in
register 2. -/
def doubleTape : String :=
"
; Doubles tape[0..r1) in place, walking the address in r2.
next:   load r2
        sub r1
        jzero end
        read r2
        store r3
        add r3
        write r2
        load r2
        add 1
        store r2
        jump next
end:
"

end Ram.Sample
