import Vb2DmaContig.Basic
import Vb2DmaContig.Ledger
import Vb2DmaContig.ContiguousSize
import Vb2DmaContig.Mmap
import Vb2DmaContig.Exporter
import Vb2DmaContig.MmapResources
import Vb2DmaContig.Import
import Vb2DmaContig.Userptr
