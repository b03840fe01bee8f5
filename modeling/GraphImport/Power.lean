/-!
# Powers

Powers of numbers are those of the core library. Where another library brings powers of its own for
the same numbers, these still go first, so that a definition means the same in every module.
-/

attribute [instance (high)] instPowNat
attribute [default_instance 20000] instPowNat
