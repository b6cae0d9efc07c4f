import Multipart.Io
import Multipart.SaveResult
import Multipart.Copy
import Multipart.Loops
import Multipart.Interrupt
import Multipart.Utf8
import Multipart.Field
import Multipart.FieldSpec
import Multipart.Entries
import Multipart.EntriesSpec
import Multipart.Locations
import Multipart.Retries
import Multipart.Accounting
import Multipart.Quiet
import Multipart.Resume
import Multipart.ReadBack
import Multipart.Options
import Multipart.Memory
