import Pyvrs.Python.Sequence
import Pyvrs.Python.Dict
import Pyvrs.Python.Bisect
import Pyvrs.Python.Str
import Pyvrs.Store
import Pyvrs.Utils
import Pyvrs.Slice
import Pyvrs.Reader
import Pyvrs.Filter
import Pyvrs.Iteration
import Pyvrs.Timestamp
import Pyvrs.ReleaseUtils
import Pyvrs.Theorems.Views
import Pyvrs.Theorems.Metadata
import Pyvrs.Theorems.Async
import Pyvrs.Theorems.TimeSearch
import Pyvrs.Theorems.Fields
import Pyvrs.Theorems.Cache
import Pyvrs.Theorems.Timestamps
